import TabularQuery.Proofs.Service.Url
import TabularQuery.Service.Request

/-!
# Where requests go

The place of the tables is the base with one slash at its end.  The name of a table is written
behind it as it is, so only some names are read as one segment of a path.  A request for such
a table stays at the place: its path is that of the place with `rest`, `v1` and the name, and
its query is the form of the parameters.  A request for any other table does not.

## Main definitions

* `Url.IsSegmentName` — the names that are one segment of a path.
* `Request.StaysAt` — a request that goes to a table of a place, with the parameters of its query.
* `Connection.request_stays_iff` — the tables whose requests stay at the place.
-/

namespace TabularQuery

namespace Url

variable {t : List Char}

/-! ## Names that are one segment -/

/-- A name is one segment of the path of a URL of the web, and the segment stands for the
name: it has no slash or backslash, nothing that ends a path, no tab and no line end, does not
end with a space or a control character, is not one of the segments of points, and has no
escapes. -/
structure IsSegmentName (t : List Char) : Prop where
  inside : ∀ c ∈ t, c ∉ ['/', '\\', '?', '#', '\t', '\n', '\r']
  last : ∀ c ∈ t.getLast?, 0x20 < c.toNat
  ne_here : t ≠ ['.']
  ne_parent : t ≠ ['.', '.']
  unescaped : Percent.Unescaped t

theorem isSegmentName_iff :
    IsSegmentName t ↔
      ((t.all fun c => !(['/', '\\', '?', '#', '\t', '\n', '\r'].contains c)) = true ∧
        (t.getLast?.all fun c => 0x20 < c.toNat) = true) ∧
      (t ≠ ['.'] ∧ t ≠ ['.', '.']) ∧ Percent.Unescaped t := by
  rw [List.all_eq_true, Option.all_eq_true]
  simp only [Bool.not_eq_true', List.contains_eq_mem, decide_eq_false_iff_not, decide_eq_true_eq]
  constructor
  · exact fun h => ⟨⟨h.inside, h.last⟩, ⟨h.ne_here, h.ne_parent⟩, h.unescaped⟩
  · exact fun ⟨⟨hinside, hlast⟩, ⟨hhere, hparent⟩, hun⟩ => ⟨hinside, hlast, hhere, hparent, hun⟩

instance (t : List Char) : Decidable (IsSegmentName t) :=
  decidable_of_iff _ isSegmentName_iff.symm

theorem inside_iff {c : Char} :
    c ∉ ['/', '\\', '?', '#', '\t', '\n', '\r'] ↔
      isSlash .web c = false ∧ endsPath c = false ∧ isKept c = true := by
  simp [isSlash, endsPath, isKept, Kind.isSpecial, and_assoc]

theorem isEdge_eq_false_iff {c : Char} : isEdge c = false ↔ 0x20 < c.toNat := by
  simp [isEdge]

/-- The last segment of a name stands for the name only if it is the name. -/
theorem eq_of_decode_lastText {last : List Char} (hsub : last.Sublist t)
    (h : Percent.decode (lastText last) = Percent.bytes t) :
    last = t ∧ Percent.Unescaped t ∧ isParent last = false ∧ isHere last = false := by
  by_cases hpoints : (isParent last || isHere last) = true
  · rw [lastText, if_pos hpoints] at h
    have ht : t = [] := Percent.bytes_eq_nil h.symm
    subst ht
    rw [List.sublist_nil.1 hsub] at hpoints
    cases hpoints
  · rw [lastText, if_neg hpoints, decode_segmentText] at h
    obtain ⟨hlast, hun⟩ := Percent.eq_of_length_decode hsub (congrArg List.length h)
    rw [Bool.not_eq_true, Bool.or_eq_false_iff] at hpoints
    exact ⟨hlast, hun, hpoints⟩

variable {scheme : List Char} {a : Authority} {pieces : List (List Char)}

/-- A name that is one segment becomes the last one. -/
theorem within_of_isSegmentName (h : IsSegmentName t) (scheme : List Char) (a : Authority)
    (pieces : List (List Char)) :
    within scheme a pieces (tidyEnd t) =
      { scheme, authority := some a,
        path := .segments (segmentText t :: pieces.foldl enter []).reverse } := by
  have hinside := fun c hc => inside_iff.1 (h.inside c hc)
  have htidy : tidyEnd t = t := tidyEnd_eq_self_iff.2
    ⟨fun c hc => (hinside c hc).2.2, fun c hc => isEdge_eq_false_iff.2 (h.last c hc)⟩
  have hparent := isParent_eq_false h.unescaped h.ne_parent
  have hhere := isHere_eq_false h.unescaped h.ne_here
  rw [htidy, within, complete_of_forall fun c hc => (hinside c hc).2.1,
    splitSlashes_eq_singleton fun c hc => (hinside c hc).1,
    resolve_append_singleton (by decide), lastText_eq_segmentText hparent hhere, keepBefore,
    hparent, if_neg Bool.false_ne_true]

/-- The path without anything behind its first segments ends with a slash. -/
theorem text_within_nil (scheme : List Char) (a : Authority) (pieces : List (List Char)) :
    (within scheme a pieces []).path.text =
      (UrlPath.segments (pieces.foldl enter []).reverse).text ++ ['/'] :=
  text_resolve (by decide) pieces []

/-- A name is one segment if the last segment of its path stands for it. -/
theorem isSegmentName_of_within {front segment : List Char}
    (hpath : (within scheme a pieces (tidyEnd t)).path.text = front ++ '/' :: segment)
    (hslash : '/' ∉ segment) (hdecode : Percent.decode segment = Percent.bytes t) :
    IsSegmentName t := by
  let p := (tidyEnd t).takeWhile fun c => !endsPath c
  have hp : p.Sublist (tidyEnd t) := List.takeWhile_sublist _
  obtain ⟨more, last, hsplit, hlast, hfree⟩ := exists_splitSlashes_eq .web p
  have htext : (within scheme a pieces (tidyEnd t)).path =
      .segments (resolve .web [] (pieces ++ splitSlashes .web p)) := rfl
  rw [htext, hsplit, ← List.append_assoc, text_resolve (by decide)] at hpath
  have hsegment : lastText last = segment :=
    Text.eq_of_append_cons_eq hpath (slash_not_mem_lastText (slash_not_mem hfree)) hslash
  rw [← hsegment] at hdecode
  obtain ⟨rfl, hun, hparent, hhere⟩ :=
    eq_of_decode_lastText (hlast.trans (hp.trans (tidyEnd_sublist t))) hdecode
  -- the name is a part of its last segment, so nothing was taken off on the way to it
  have htidy : tidyEnd last = last := (tidyEnd_sublist last).antisymm (hlast.trans hp)
  have htake : last.takeWhile (fun c => !endsPath c) = last := by
    have hp' : p = last := (hp.trans (tidyEnd_sublist last)).antisymm hlast
    rwa [show p = (tidyEnd last).takeWhile fun c => !endsPath c from rfl, htidy] at hp'
  obtain ⟨hkept, hedge⟩ := tidyEnd_eq_self_iff.1 htidy
  refine ⟨fun c hc => inside_iff.2 ⟨hfree c hc, ?_, hkept c hc⟩,
    fun c hc => isEdge_eq_false_iff.1 (hedge c hc), ?_, ?_, hun⟩
  · simpa using List.takeWhile_eq_self_iff.1 htake c hc
  · rintro rfl
    cases hhere
  · rintro rfl
    cases hparent

end Url

/-! ## Requests -/

/-- A request goes to a table of a place: its path is that of the place with `rest`, `v1` and
one segment that stands for the name of the table, and its query is the form of the parameters
and nothing else. -/
structure Request.StaysAt (r : Request) (place : Url) (q : Query) : Prop where
  path : ∃ segment, r.url.path.text = place.path.text ++ "rest/v1/".toList ++ segment ∧
    '/' ∉ segment ∧ Percent.decode segment = Percent.bytes q.table.toList
  query : r.url.query = if q.params.isEmpty then none else some (Percent.formList q.params)

/-- There is nothing left to take off. -/
theorem Url.withoutCredentials_idem (u : Url) :
    u.withoutCredentials.withoutCredentials = u.withoutCredentials := by
  obtain ⟨scheme, authority, path, query, fragment⟩ := u
  cases authority with
  | none => rfl
  | some a => rfl

namespace Connection

variable {c : Connection} {q : Query} {r : Request} {base url : Url}

/-- The URL of the place of the tables: the base with one slash at its end. -/
def place (c : Connection) : Except UrlFault Url :=
  Url.read (c.baseText ++ ['/'])

theorem endpoint_eq (c : Connection) (table : String) :
    c.endpoint table = c.baseText ++ '/' :: ("rest/v1".toList ++ '/' :: table.toList) := by
  simp [endpoint]

/-- What a request keeps of the URL of its endpoint. -/
structure Carries (r : Request) (url : Url) (q : Query) : Prop where
  scheme : r.url.scheme = url.scheme
  authority : r.url.withoutCredentials.authority = url.withoutCredentials.authority
  path : r.url.path = url.path
  query : r.url.query = (url.withParams q.params).query
  kind : Url.Kind.ofScheme url.scheme = .web

theorem kind_of_isUsable (h : url.isUsable = true) : Url.Kind.ofScheme url.scheme = .web := by
  rw [Url.isUsable, Bool.and_eq_true, Bool.and_eq_true, Bool.or_eq_true, beq_iff_eq,
    beq_iff_eq] at h
  rcases h.1.1 with hscheme | hscheme
  · rw [hscheme]
    rfl
  · rw [hscheme]
    rfl

/-- A request is sent to the URL of its endpoint, with the parameters of its query. -/
theorem request_eq_ok (h : c.request q = .ok r) :
    ∃ url, Url.read (c.endpoint q.table) = .ok url ∧ Carries r url q := by
  obtain ⟨url, hread, h⟩ := Except.bind_eq_ok_iff.1 h
  refine ⟨url, ?_, ?_⟩
  · cases hendpoint : Url.read (c.endpoint q.table) with
    | error fault =>
      rw [hendpoint] at hread
      cases hread
    | ok found =>
      rw [hendpoint] at hread
      cases hread
      rfl
  · dsimp only at h
    split_ifs at h with hhost hsend huser husable husable
    · cases h
      have hkind := kind_of_isUsable (by simpa using husable)
      have hauthority := congrArg Url.authority url.withoutCredentials_idem
      exact ⟨rfl, hauthority, rfl, rfl, hkind⟩
    · cases h
      have hkind := kind_of_isUsable (by simpa using husable)
      exact ⟨rfl, rfl, rfl, rfl, hkind⟩

/-- Only slashes are taken off the base. -/
theorem exists_base_eq (c : Connection) :
    ∃ slashes, c.base.toList = c.baseText ++ slashes ∧ ∀ d ∈ slashes, d = '/' := by
  refine ⟨c.base.toList.rtakeWhile (· == '/'), ?_, fun d hd => ?_⟩
  · exact List.rdropWhile_append_rtakeWhile.symm
  · simpa using List.mem_rtakeWhile_imp hd

/-- The endpoint of a table, behind what comes before it. -/
theorem within_rest (scheme : List Char) (a : Authority) (pieces : List (List Char))
    (t : List Char) :
    Url.within scheme a pieces (Url.tidyEnd ("rest/v1".toList ++ '/' :: t)) =
      Url.within scheme a (pieces ++ ["rest".toList, "v1".toList]) (Url.tidyEnd t) := by
  have hkept : "rest/v1".toList.filter Url.isKept = "rest/v1".toList := by simp [Url.isKept]
  have hpath : ∀ c ∈ "rest/v1".toList, Url.endsPath c = false := by simp [Url.endsPath]
  have hsplit : Url.splitSlashes .web "rest/v1".toList = ["rest".toList, "v1".toList] := rfl
  rw [Url.tidyEnd_append, hkept, Url.within_append hpath, hsplit]

theorem text_enter_rest (pieces : List (List Char)) :
    (UrlPath.segments ((pieces ++ ["rest".toList, "v1".toList]).foldl Url.enter []).reverse).text =
      (UrlPath.segments (pieces.foldl Url.enter []).reverse).text ++ "/rest/v1".toList := by
  have henter : (pieces ++ ["rest".toList, "v1".toList]).foldl Url.enter [] =
      "v1".toList :: "rest".toList :: pieces.foldl Url.enter [] := by
    rw [List.foldl_append]
    rfl
  rw [henter]
  simp [UrlPath.text]

/-- A request for a table of an endpoint stays just if the name is one segment. -/
theorem stays_within_iff {scheme : List Char} {a : Authority} {pieces : List (List Char)}
    (h : Carries r (Url.within scheme a (pieces ++ ["rest".toList, "v1".toList])
      (Url.tidyEnd q.table.toList)) q) :
    r.StaysAt (Url.within scheme a pieces []) q ↔ Url.IsSegmentName q.table.toList := by
  have hplace : ∀ segment,
      (Url.within scheme a pieces []).path.text ++ "rest/v1/".toList ++ segment =
        (UrlPath.segments
          ((pieces ++ ["rest".toList, "v1".toList]).foldl Url.enter []).reverse).text ++
          '/' :: segment := by
    intro segment
    rw [Url.text_within_nil, text_enter_rest]
    simp
  constructor
  · rintro ⟨⟨segment, hpath, hslash, hdecode⟩, -⟩
    rw [h.path, hplace] at hpath
    exact Url.isSegmentName_of_within hpath hslash hdecode
  · intro hname
    have hurl := Url.within_of_isSegmentName hname scheme a
      (pieces ++ ["rest".toList, "v1".toList])
    refine ⟨⟨Url.segmentText q.table.toList, ?_, ?_, ?_⟩, ?_⟩
    · rw [h.path, hurl, hplace, List.reverse_cons]
      simp [UrlPath.text]
    · exact Percent.slash_not_mem_encode fun hslash => hname.inside '/' hslash (by decide)
    · rw [Url.decode_segmentText, Percent.decode_eq_bytes_iff.2 hname.unescaped]
    · rw [h.query, hurl, Url.withParams]
      by_cases hparams : q.params = []
      · rw [hparams]
        rfl
      · simp [hparams, Percent.formList_ne_nil hparams]

/-- **A request stays at the place of the tables just if the name of its table is one segment
of a path.**  It always goes to the scheme, the host and the port of the place, which are those
of the base unless that ends with a space or a control character. -/
theorem request_stays_iff (hbase : Url.read c.base.toList = .ok base) (hquery : base.query = none)
    (hfragment : base.fragment = none) (hrequest : c.request q = .ok r) :
    ∃ place, c.place = .ok place ∧
      ((∀ d ∈ c.base.toList.getLast?, 0x20 < d.toNat) → Url.SameUpToSlashes place base) ∧
      r.url.scheme = place.scheme ∧
      r.url.withoutCredentials.authority = place.withoutCredentials.authority ∧
      (r.StaysAt place q ↔ Url.IsSegmentName q.table.toList) := by
  obtain ⟨url, hread, hcarries⟩ := request_eq_ok hrequest
  rw [endpoint_eq] at hread
  obtain ⟨slashes, heq, hslashes⟩ := c.exists_base_eq
  rw [heq] at hbase
  obtain ⟨rest, hopens⟩ :=
    Url.opens_tidyStart hslashes hbase hquery hfragment hread hcarries.kind
  rcases hopens.read_append with ⟨fault, hfault⟩ | ⟨a, pieces, hwithin⟩
  · rw [hfault] at hread
    cases hread
  · rw [hwithin, within_rest] at hread
    have hurl := Except.ok.inj hread
    refine ⟨Url.within url.scheme a pieces [], hwithin [], ?_, hcarries.scheme, ?_, ?_⟩
    · intro hlast
      refine hopens.sameUpToSlashes hslashes (fun d hd => ?_) hbase (hwithin [])
      exact Url.isEdge_eq_false_iff.2 (hlast d (heq ▸ hd))
    · rw [hcarries.authority, ← hurl]
      rfl
    · refine stays_within_iff ?_
      rw [hurl]
      exact hcarries

/-- The name of a table with a percent sign, a space and a letter beyond the seven-bit code, at
a base with a segment that is left and two slashes at its end. -/
theorem request_stays_of_percent_name :
    let c : Connection := { base := "http://localhost:3000/x/../y//", key := "key" }
    let q : Query := (Query.ofTable "50% für").select "*"
    ∃ r place, c.request q = .ok r ∧ c.place = .ok place ∧ r.StaysAt place q ∧
      String.ofList r.target = "/y/rest/v1/50%%20f%C3%BCr?select=*" := by
  intro c q
  have hbase : (Url.read c.base.toList).toOption.map (fun u => (u.query, u.fragment)) =
      some (none, none) := by decide +kernel
  have hrequest : (c.request q).toOption.map (fun r => String.ofList r.target) =
      some "/y/rest/v1/50%%20f%C3%BCr?select=*" := by decide +kernel
  obtain ⟨base, hbase, hparts⟩ := Option.map_eq_some_iff.1 hbase
  obtain ⟨r, hrequest, htarget⟩ := Option.map_eq_some_iff.1 hrequest
  obtain ⟨hquery, hfragment⟩ := Prod.mk.inj hparts
  rw [Except.toOption_eq_some_iff] at hbase hrequest
  obtain ⟨place, hplace, -, -, -, hstays⟩ :=
    request_stays_iff hbase hquery hfragment hrequest
  have htable : q.table.toList = ['5', '0', '%', ' ', 'f', 'ü', 'r'] := by decide +kernel
  have hname : Url.IsSegmentName q.table.toList := by
    rw [htable]
    decide
  exact ⟨r, place, hrequest, hplace, hstays.2 hname, htarget⟩

/-- A question mark in the name of a table begins the query. -/
theorem request_leaves_of_question_mark :
    let c : Connection := { base := "http://localhost", key := "key" }
    let q : Query := (Query.ofTable "orders?select=secret").select "*"
    ∃ base r, Url.read c.base.toList = .ok base ∧ base.query = none ∧ base.fragment = none ∧
      c.request q = .ok r ∧ ¬ r.StaysAt base q := by
  intro c q
  have hbase : (Url.read c.base.toList).toOption.map (fun u => (u.query, u.fragment)) =
      some (none, none) := by decide +kernel
  have hrequest : (c.request q).toOption.map (fun r => r.url.query) =
      some (some "select=secret&select=*".toList) := by decide +kernel
  have hform : (if q.params.isEmpty then none else some (Percent.formList q.params)) ≠
      some "select=secret&select=*".toList := by decide +kernel
  obtain ⟨base, hbase, hparts⟩ := Option.map_eq_some_iff.1 hbase
  obtain ⟨r, hrequest, hsent⟩ := Option.map_eq_some_iff.1 hrequest
  obtain ⟨hquery, hfragment⟩ := Prod.mk.inj hparts
  rw [Except.toOption_eq_some_iff] at hbase hrequest
  refine ⟨base, r, hbase, hquery, hfragment, hrequest, fun hstays => hform ?_⟩
  rw [← hstays.query, hsent]

end Connection

end TabularQuery
