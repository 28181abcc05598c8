import Mathlib.Data.List.DropRight
import TabularQuery.Proofs.Except
import TabularQuery.Proofs.Service.Path
import TabularQuery.Proofs.Text.Digits

/-!
# Reading URLs

A slash in the text of a URL closes what is before it.  Once the scheme, the authority and the
first segments of the path have been read up to a slash, the text after the slash has no say in
them: it only adds segments to the path, and may add a query and a fragment.  Before the first
slash there is no such boundary, so this is shown of texts that begin a URL of the web and go on
with a slash.

## Main definitions

* `Url.tidy_append` — a text with a slash in it, without the characters that a URL may not have.
* `Url.authorityOf`, `Url.readAuthority_eq` — the authority apart from what comes after it.
* `Url.Opens` — texts that begin a URL of the web and have no query and no fragment.
* `Url.Opens.read_append` — the URL of such a text with a slash and another text after it.
* `Url.Opens.sameUpToSlashes` — the URL of such a text with one slash at its end.
-/

namespace TabularQuery.Url

variable {k : Kind} {s t scheme name rest : List Char} {u : Url}

/-! ## Tidying -/

/-- Whether a character is taken off the ends of a text. -/
def isEdge (c : Char) : Bool :=
  c.toNat ≤ 0x20

/-- Whether a character may be inside a text. -/
def isKept (c : Char) : Bool :=
  c != '\t' && c != '\n' && c != '\r'

/-- The beginning of a text that goes on, without the characters that a URL may not have. -/
def tidyStart (s : List Char) : List Char :=
  (s.dropWhile isEdge).filter isKept

/-- The end of a text that has begun before. -/
def tidyEnd (s : List Char) : List Char :=
  (s.rdropWhile isEdge).filter isKept

theorem tidy_eq (s : List Char) : tidy s = ((s.dropWhile isEdge).rdropWhile isEdge).filter isKept :=
  rfl

/-- The two sides of a slash are tidied apart. -/
theorem tidy_append (s t : List Char) : tidy (s ++ '/' :: t) = tidyStart s ++ '/' :: tidyEnd t := by
  rw [tidy_eq, Text.dropWhile_append_cons (by decide), Text.rdropWhile_append_cons (by decide),
    List.filter_append, List.filter_cons_of_pos (by decide)]
  rfl

theorem tidyEnd_append (s t : List Char) :
    tidyEnd (s ++ '/' :: t) = s.filter isKept ++ '/' :: tidyEnd t := by
  rw [tidyEnd, Text.rdropWhile_append_cons (by decide), List.filter_append,
    List.filter_cons_of_pos (by decide)]
  rfl

theorem tidyEnd_sublist (s : List Char) : (tidyEnd s).Sublist s :=
  List.filter_sublist.trans (List.rdropWhile_prefix isEdge s).sublist

theorem rdropWhile_isEdge_eq_self_iff :
    s.rdropWhile isEdge = s ↔ ∀ c ∈ s.getLast?, isEdge c = false := by
  rw [List.rdropWhile_eq_self_iff]
  constructor
  · intro h c hc
    obtain ⟨hne, rfl⟩ := List.mem_getLast?_eq_getLast hc
    exact Bool.not_eq_true _ ▸ h hne
  · intro h hne
    exact Bool.not_eq_true _ ▸ h _ (List.getLast_mem_getLast? hne)

/-- Nothing is taken off a text that has only kept characters and does not end at an edge. -/
theorem tidyEnd_eq_self_iff :
    tidyEnd s = s ↔ (∀ c ∈ s, isKept c = true) ∧ ∀ c ∈ s.getLast?, isEdge c = false := by
  rw [← rdropWhile_isEdge_eq_self_iff, tidyEnd]
  constructor
  · intro h
    have hprefix := List.rdropWhile_prefix isEdge s
    have hlength : s.length ≤ (s.rdropWhile isEdge).length := by
      calc s.length = ((s.rdropWhile isEdge).filter isKept).length := by rw [h]
        _ ≤ (s.rdropWhile isEdge).length := List.length_filter_le _ _
    have hs := hprefix.eq_of_length_le hlength
    rw [hs, List.filter_eq_self] at h
    exact ⟨h, hs⟩
  · rintro ⟨hkept, hs⟩
    rw [hs, List.filter_eq_self.2 hkept]

/-- What is taken off the end of a text is put back. -/
theorem exists_tidyStart_eq (s : List Char) :
    ∃ t, tidyStart s = tidy s ++ t ∧ ∀ c ∈ t, isEdge c = true := by
  refine ⟨((s.dropWhile isEdge).rtakeWhile isEdge).filter isKept, ?_, ?_⟩
  · rw [tidy_eq, ← List.filter_append, List.rdropWhile_append_rtakeWhile]
    rfl
  · exact fun c hc => List.mem_rtakeWhile_imp (List.mem_filter.1 hc).1

/-- Nothing is taken off the end of a text that does not end at an edge. -/
theorem tidy_eq_tidyStart (h : ∀ c ∈ s.getLast?, isEdge c = false) : tidy s = tidyStart s := by
  have hend : (s.dropWhile isEdge).rdropWhile isEdge = s.dropWhile isEdge := by
    rw [rdropWhile_isEdge_eq_self_iff]
    intro c hc
    refine h c ?_
    rw [← List.takeWhile_append_dropWhile (p := isEdge) (l := s), List.getLast?_append,
      Option.mem_def.1 hc]
    rfl
  rw [tidy_eq, hend]
  rfl

/-! ## Ends of paths -/

theorem endsPath_iff {c : Char} : endsPath c = true ↔ c = '?' ∨ c = '#' := by
  simp [endsPath]

theorem endsPath_of_isEdge {c : Char} (h : isEdge c = true) : endsPath c = false := by
  by_contra hends
  rw [Bool.not_eq_false, endsPath_iff] at hends
  rcases hends with rfl | rfl
  · cases h
  · cases h

theorem endsPath_of_isSlash {c : Char} (h : isSlash k c = true) : endsPath c = false := by
  by_contra hends
  rw [Bool.not_eq_false, endsPath_iff] at hends
  rcases hends with rfl | rfl
  · simp [isSlash] at h
  · simp [isSlash] at h

theorem forall_append_slash (hs : ∀ c ∈ s, endsPath c = false) :
    ∀ c ∈ s ++ ['/'], endsPath c = false :=
  List.forall_mem_append.2 ⟨hs, fun c hc => by rw [List.mem_singleton.1 hc]; rfl⟩

/-! ## Schemes -/

theorem scheme?_eq_some_iff :
    scheme? s = some (name, rest) ↔
      ∃ c written, s = (c :: written) ++ ':' :: rest ∧ c.isAlpha = true ∧
        (∀ d ∈ c :: written, isSchemeChar d = true) ∧ name = (c :: written).map Char.toLower := by
  constructor
  · intro h
    rw [scheme?] at h
    split at h
    · rename_i c written rest' htake hdrop
      split_ifs at h with hc
      cases h
      refine ⟨c, written, ?_, hc, ?_, rfl⟩
      · rw [← htake, ← hdrop, List.takeWhile_append_dropWhile]
      · exact fun d hd => List.mem_takeWhile_imp (htake ▸ hd)
    · cases h
  · rintro ⟨c, written, rfl, hc, hwritten, rfl⟩
    have hstops : Text.Stops isSchemeChar (':' :: rest) := Text.stops_cons.2 (by decide)
    rw [scheme?, Text.takeWhile_append hwritten hstops, Text.dropWhile_append hwritten hstops]
    exact if_pos hc

theorem scheme?_append (h : scheme? s = some (name, rest)) (t : List Char) :
    scheme? (s ++ t) = some (name, rest ++ t) := by
  obtain ⟨c, written, rfl, hwritten⟩ := scheme?_eq_some_iff.1 h
  exact scheme?_eq_some_iff.2 ⟨c, written, List.append_assoc _ _ t, hwritten⟩

/-- The scheme of a text ends before a slash. -/
theorem exists_of_scheme?_append (h : scheme? (s ++ '/' :: t) = some (name, rest)) :
    ∃ more, scheme? s = some (name, more) ∧ rest = more ++ '/' :: t := by
  obtain ⟨c, written, heq, hc, hwritten, hname⟩ := scheme?_eq_some_iff.1 h
  rcases List.append_eq_append_iff.1 heq with ⟨a, hleft, hright⟩ | ⟨a, hleft, hright⟩
  · cases a with
    | nil => cases hright
    | cons d a =>
      obtain ⟨rfl, -⟩ := List.cons.inj hright
      have hslash : '/' ∈ c :: written := hleft ▸ List.mem_append_right s List.mem_cons_self
      cases hwritten '/' hslash
  · cases a with
    | nil => cases hright
    | cons d a =>
      obtain ⟨rfl, hrest⟩ := List.cons.inj hright
      exact ⟨a, scheme?_eq_some_iff.2 ⟨c, written, hleft, hc, hwritten, hname⟩, hrest⟩

/-! ## Queries and fragments -/

section Complete

variable {path : List Char → UrlPath} {a : Option Authority}

/-- A text that does not end the path before it. -/
theorem complete_append (hs : ∀ c ∈ s, endsPath c = false) (t : List Char) :
    complete k scheme a path (s ++ t) = complete k scheme a (fun p => path (s ++ p)) t := by
  have hstays : ∀ c ∈ s, (!endsPath c) = true := fun c hc => by rw [hs c hc]; rfl
  rw [complete, complete, List.takeWhile_append_of_pos hstays, List.dropWhile_append_of_pos hstays]

theorem complete_of_forall (hs : ∀ c ∈ s, endsPath c = false) :
    complete k scheme a path s = { scheme, authority := a, path := path s } := by
  have hstays : ∀ c ∈ s, (!endsPath c) = true := fun c hc => by rw [hs c hc]; rfl
  rw [complete, List.takeWhile_eq_self_iff.2 hstays, List.dropWhile_eq_nil_iff.2 hstays]
  rfl

/-- A URL without a query and a fragment is all path. -/
theorem forall_of_complete (hquery : (complete k scheme a path s).query = none)
    (hfragment : (complete k scheme a path s).fragment = none) : ∀ c ∈ s, endsPath c = false := by
  cases hrest : s.dropWhile (fun c => !endsPath c) with
  | nil =>
    intro c hc
    have hall := List.dropWhile_eq_nil_iff.1 hrest c hc
    simpa using hall
  | cons d rest =>
    have hd : endsPath d = true := by
      have hhead := List.head?_dropWhile_not (fun c => !endsPath c) s
      rw [hrest] at hhead
      simpa using hhead
    rcases endsPath_iff.1 hd with rfl | rfl
    · simp [complete, hrest] at hquery
    · simp [complete, hrest] at hfragment

end Complete

/-! ## Authorities -/

theorem splitAtLast?_suffix {sep : Char} {before after : List Char}
    (h : splitAtLast? sep s = some (before, after)) : after <:+ s := by
  induction s generalizing before with
  | nil => cases h
  | cons c s ih =>
    rw [splitAtLast?] at h
    split at h
    · rename_i before' after' hsplit
      cases h
      exact (ih hsplit).trans (List.suffix_cons c s)
    · split_ifs at h
      cases h
      exact List.suffix_cons c after

theorem splitHost_suffix (inBrackets : Bool) (s : List Char) :
    (splitHost inBrackets s).2 <:+ s := by
  induction s generalizing inBrackets with
  | nil => exact List.suffix_refl []
  | cons c s ih =>
    rw [splitHost]
    split_ifs
    · exact List.suffix_refl _
    · exact (ih _).trans (List.suffix_cons c s)

theorem readNumber_suffix {n : Option Nat} (h : readNumber scheme s = .ok (n, rest)) :
    rest <:+ s := by
  have hrest : rest = s.dropWhile Text.isDigit := by
    rw [readNumber] at h
    split_ifs at h
    · cases h
      rfl
    · cases h
      rfl
  rw [hrest]
  exact List.dropWhile_suffix _

theorem readHostAndNumber_suffix {host : Option Host} {n : Option Nat}
    (h : readHostAndNumber k scheme s = .ok (host, n, rest)) : rest <:+ s := by
  rw [readHostAndNumber] at h
  dsimp only at h
  split_ifs at h
  · cases h
    exact List.nil_suffix
  · obtain ⟨host', -, h⟩ := Except.bind_eq_ok_iff.1 h
    obtain ⟨⟨n', rest'⟩, hnumber, h⟩ := Except.bind_eq_ok_iff.1 h
    cases h
    exact (readNumber_suffix hnumber).trans
      ((List.drop_suffix 1 _).trans (splitHost_suffix false s))

/-- Whether a character may be in an authority. -/
def staysInAuthority (k : Kind) (c : Char) : Bool :=
  !(isSlash k c || endsPath c)

/-- The authority of the text that may be one, and what of that text comes after it. -/
def authorityOf (k : Kind) (scheme front : List Char) (atEnd : Bool) :
    Except UrlFault (Authority × List Char) := do
  let (user, place) := (splitAtLast? '@' front).getD ([], front)
  if place.isEmpty && !front.isEmpty && user.isEmpty && !atEnd then .error .emptyHost
  else
    let (username, password) := readUser user
    let (host, portNumber, more) ← readHostAndNumber k scheme place
    if host.isNone && (!username.isEmpty || password.isSome) then .error .emptyHost
    else .ok ({ username, password, host, portNumber }, more)

/-- The authority is read from what comes before the first slash, question mark or number
sign; of the rest it only matters whether there is any. -/
theorem readAuthority_eq (k : Kind) (scheme s : List Char) :
    readAuthority k scheme s =
      (authorityOf k scheme (s.takeWhile (staysInAuthority k))
        (s.dropWhile (staysInAuthority k)).isEmpty).map fun found =>
          complete k scheme (some found.1) (readPath k)
            (found.2 ++ s.dropWhile (staysInAuthority k)) := by
  have hstays : (fun c => !(isSlash k c || endsPath c)) = staysInAuthority k := rfl
  rcases hsplit : (splitAtLast? '@' (s.takeWhile (staysInAuthority k))).getD
    ([], s.takeWhile (staysInAuthority k)) with ⟨user, place⟩
  simp only [readAuthority, authorityOf, hstays, hsplit]
  split_ifs with hempty
  · rfl
  · rcases hfound : readHostAndNumber k scheme place with fault | ⟨host, portNumber, more⟩
    · rfl
    · simp only [bind, Except.bind]
      split_ifs
      · rfl
      · rfl

/-- What comes after an authority is the end of the text that may be one. -/
theorem authorityOf_suffix {front more : List Char} {atEnd : Bool} {a : Authority}
    (h : authorityOf k scheme front atEnd = .ok (a, more)) : more <:+ front := by
  have hplace : ((splitAtLast? '@' front).getD ([], front)).2 <:+ front := by
    cases hsplit : splitAtLast? '@' front with
    | none => exact List.suffix_refl front
    | some found => exact splitAtLast?_suffix hsplit
  rcases hsplit : (splitAtLast? '@' front).getD ([], front) with ⟨user, place⟩
  rw [hsplit] at hplace
  simp only [authorityOf, hsplit] at h
  split_ifs at h
  obtain ⟨⟨host, portNumber, more'⟩, hfound, h⟩ := Except.bind_eq_ok_iff.1 h
  dsimp only at h
  split_ifs at h
  cases h
  exact (readHostAndNumber_suffix hfound).trans hplace

theorem endsPath_of_staysInAuthority {c : Char} (h : staysInAuthority k c = true) :
    endsPath c = false := by
  rw [staysInAuthority, Bool.not_eq_true', Bool.or_eq_false_iff] at h
  exact h.2

/-- Nothing ends a path behind the authority of a text in which nothing does. -/
theorem forall_of_authorityOf {front more : List Char} {atEnd : Bool} {a : Authority}
    (hfront : ∀ c ∈ front, endsPath c = false)
    (h : authorityOf k scheme (front.takeWhile (staysInAuthority k)) atEnd = .ok (a, more)) :
    ∀ c ∈ more ++ front.dropWhile (staysInAuthority k), endsPath c = false :=
  List.forall_mem_append.2
    ⟨fun c hc => hfront c ((List.takeWhile_sublist _).subset ((authorityOf_suffix h).subset hc)),
      fun c hc => hfront c ((List.dropWhile_suffix _).subset hc)⟩

/-- A URL with an authority, but without a query and a fragment, has no character that ends a
path. -/
theorem forall_of_readAuthority (h : readAuthority k scheme s = .ok u) (hquery : u.query = none)
    (hfragment : u.fragment = none) : ∀ c ∈ s, endsPath c = false := by
  rw [readAuthority_eq] at h
  obtain ⟨⟨a, more⟩, -, rfl⟩ := Except.map_eq_ok_iff.1 h
  have hrest := forall_of_complete hquery hfragment
  intro c hc
  rw [← List.takeWhile_append_dropWhile (p := staysInAuthority k) (l := s)] at hc
  rcases List.mem_append.1 hc with hc | hc
  · exact endsPath_of_staysInAuthority (List.mem_takeWhile_imp hc)
  · exact hrest c (List.mem_append_right more hc)

/-! ## Schemes that are read -/

theorem readAuthority_scheme (h : readAuthority k scheme s = .ok u) : u.scheme = scheme := by
  rw [readAuthority_eq] at h
  obtain ⟨found, -, rfl⟩ := Except.map_eq_ok_iff.1 h
  rfl

theorem readFile_scheme (h : readFile scheme s = .ok u) : u.scheme = scheme := by
  rw [readFile.eq_def] at h
  dsimp only at h
  split at h
  · split_ifs at h
    · cases h
      rfl
    · obtain ⟨host, -, h⟩ := Except.bind_eq_ok_iff.1 h
      cases h
      rfl
    · cases h
      rfl
  · cases h
    rfl

/-- The scheme of a URL is that of its text. -/
theorem scheme?_of_read (h : read s = .ok u) :
    ∃ rest, scheme? (tidy s) = some (u.scheme, rest) := by
  rw [read] at h
  split at h
  · cases h
  · rename_i scheme rest hscheme
    refine ⟨rest, ?_⟩
    rw [hscheme]
    split at h
    · rw [readFile_scheme h]
    · rw [readAuthority_scheme h]
    · split at h
      · rw [readAuthority_scheme h]
      · cases h
        rfl
      · cases h
        rfl

/-! ## Beginnings -/

/-- A text begins a URL of the web: it has a scheme of the web, something for an authority, and
nothing that ends a path. -/
structure Opens (s scheme rest : List Char) : Prop where
  scheme_eq : scheme? s = some (scheme, rest)
  kind_eq : Kind.ofScheme scheme = .web
  exists_authority : ∃ c ∈ rest, isSlash .web c = false
  path : ∀ c ∈ rest, endsPath c = false

theorem readAuthority_nil (scheme : List Char) : readAuthority .web scheme [] = .error .emptyHost :=
  rfl

/-- The URL of a text whose scheme is one of the web. -/
theorem read_eq (hscheme : scheme? (tidy s) = some (scheme, rest))
    (hkind : Kind.ofScheme scheme = .web) :
    read s = readAuthority .web scheme (rest.dropWhile (isSlash .web)) := by
  rw [read, hscheme]
  dsimp only
  rw [hkind]

theorem opens_of_read (h : read s = .ok u) (hkind : Kind.ofScheme u.scheme = .web)
    (hquery : u.query = none) (hfragment : u.fragment = none) :
    ∃ rest, Opens (tidy s) u.scheme rest := by
  obtain ⟨rest, hscheme⟩ := scheme?_of_read h
  rw [read_eq hscheme hkind] at h
  have hpath := forall_of_readAuthority h hquery hfragment
  refine ⟨rest, hscheme, hkind, ?_, fun c hc => ?_⟩
  · by_contra hnone
    have hall : ∀ c ∈ rest, isSlash .web c = true := fun c hc => by
      by_contra hslash
      exact hnone ⟨c, hc, Bool.not_eq_true _ ▸ hslash⟩
    rw [List.dropWhile_eq_nil_iff.2 hall, readAuthority_nil] at h
    cases h
  · rw [← List.takeWhile_append_dropWhile (p := isSlash .web) (l := rest)] at hc
    rcases List.mem_append.1 hc with hc | hc
    · exact endsPath_of_isSlash (List.mem_takeWhile_imp hc)
    · exact hpath c hc

theorem Opens.append (h : Opens s scheme rest) (ht : ∀ c ∈ t, endsPath c = false) :
    Opens (s ++ t) scheme (rest ++ t) where
  scheme_eq := scheme?_append h.scheme_eq t
  kind_eq := h.kind_eq
  exists_authority := by
    obtain ⟨c, hc, hslash⟩ := h.exists_authority
    exact ⟨c, List.mem_append_left t hc, hslash⟩
  path c hc := (List.mem_append.1 hc).elim (h.path c) (ht c)

/-- Slashes at the end of a text are not needed for a beginning. -/
theorem Opens.of_append (h : Opens (s ++ '/' :: t) scheme rest)
    (ht : ∀ c ∈ t, isSlash .web c = true) : ∃ more, Opens s scheme more := by
  obtain ⟨more, hscheme, rfl⟩ := exists_of_scheme?_append h.scheme_eq
  refine ⟨more, hscheme, h.kind_eq, ?_, fun c hc => h.path c (List.mem_append_left _ hc)⟩
  obtain ⟨c, hc, hslash⟩ := h.exists_authority
  rcases List.mem_append.1 hc with hc | hc
  · exact ⟨c, hc, hslash⟩
  · rcases List.mem_cons.1 hc with rfl | hc
    · cases hslash
    · rw [ht c hc] at hslash
      cases hslash

/-- **What begins a URL without a query and a fragment begins the URL of every text behind it**,
also without the slashes at its end. -/
theorem opens_tidyStart {slashes : List Char} {base : Url} (hslashes : ∀ c ∈ slashes, c = '/')
    (hbase : read (s ++ slashes) = .ok base) (hquery : base.query = none)
    (hfragment : base.fragment = none) (h : read (s ++ '/' :: t) = .ok u)
    (hkind : Kind.ofScheme u.scheme = .web) : ∃ rest, Opens (tidyStart s) u.scheme rest := by
  obtain ⟨rest, hscheme⟩ := scheme?_of_read h
  rw [tidy_append] at hscheme
  obtain ⟨more, hstart, -⟩ := exists_of_scheme?_append hscheme
  obtain ⟨baseRest, hbaseScheme⟩ := scheme?_of_read hbase
  cases slashes with
  | nil =>
    rw [List.append_nil] at hbase hbaseScheme
    obtain ⟨edge, htidy, hedge⟩ := exists_tidyStart_eq s
    have hname : base.scheme = u.scheme := by
      have happend := scheme?_append hbaseScheme edge
      rw [← htidy, hstart] at happend
      exact (Prod.mk.inj (Option.some.inj happend)).1.symm
    rw [← hname] at hkind ⊢
    obtain ⟨more, hopens⟩ := opens_of_read hbase hkind hquery hfragment
    rw [htidy]
    exact ⟨_, hopens.append fun c hc => endsPath_of_isEdge (hedge c hc)⟩
  | cons d slashes =>
    obtain ⟨rfl, hmore⟩ := List.forall_mem_cons.1 hslashes
    rw [tidy_append] at hbaseScheme
    obtain ⟨_, hbaseStart, -⟩ := exists_of_scheme?_append hbaseScheme
    have hname : base.scheme = u.scheme := by
      rw [hstart] at hbaseStart
      exact (Prod.mk.inj (Option.some.inj hbaseStart)).1.symm
    rw [← hname] at hkind ⊢
    obtain ⟨more, hopens⟩ := opens_of_read hbase hkind hquery hfragment
    rw [tidy_append] at hopens
    refine hopens.of_append fun c hc => ?_
    rw [hmore c ((tidyEnd_sublist slashes).subset hc)]
    rfl

/-- The URL with an authority, the first segments of a path, and a text after them. -/
def within (scheme : List Char) (a : Authority) (pieces : List (List Char)) (s : List Char) : Url :=
  complete .web scheme (some a)
    (fun p => .segments (resolve .web [] (pieces ++ splitSlashes .web p))) s

theorem within_append (hs : ∀ c ∈ s, endsPath c = false) (scheme : List Char) (a : Authority)
    (pieces : List (List Char)) (t : List Char) :
    within scheme a pieces (s ++ '/' :: t) =
      within scheme a (pieces ++ splitSlashes .web s) t := by
  have hsplit : s ++ '/' :: t = (s ++ ['/']) ++ t := by rw [List.append_assoc]; rfl
  rw [hsplit, within, within, complete_append (forall_append_slash hs)]
  simp only [List.append_assoc, List.singleton_append, splitSlashes_append]

theorem exists_readPath_append (s : List Char) :
    ∃ pieces, ∀ p, readPath .web (s ++ '/' :: p) =
      .segments (resolve .web [] (pieces ++ splitSlashes .web p)) := by
  have hsegments : ∀ s p, readSegments .web (s ++ '/' :: p) =
      .segments (resolve .web [] (splitSlashes .web s ++ splitSlashes .web p)) := by
    intro s p
    rw [readSegments, splitSlashes_append]
    rfl
  cases s with
  | nil => exact ⟨[], fun p => rfl⟩
  | cons c s =>
    cases hc : isSlash .web c with
    | true =>
      refine ⟨splitSlashes .web s, fun p => ?_⟩
      rw [List.cons_append, readPath, if_pos hc, hsegments]
    | false =>
      refine ⟨splitSlashes .web (c :: s), fun p => ?_⟩
      rw [List.cons_append, readPath, if_neg (by rw [hc]; exact Bool.false_ne_true), ← hsegments]
      rfl

/-- The authority of a text that goes on with a slash is not at its end. -/
theorem readAuthority_append_eq (scheme front t : List Char) :
    readAuthority .web scheme (front ++ '/' :: t) =
      (authorityOf .web scheme (front.takeWhile (staysInAuthority .web)) false).map fun found =>
        complete .web scheme (some found.1) (readPath .web)
          (((found.2 ++ front.dropWhile (staysInAuthority .web)) ++ ['/']) ++ t) := by
  have hempty : (front.dropWhile (staysInAuthority .web) ++ '/' :: t).isEmpty = false := by simp
  rw [readAuthority_eq, Text.takeWhile_append_cons (by rfl), Text.dropWhile_append_cons (by rfl),
    hempty]
  simp only [List.append_assoc, List.singleton_append]

/-- An authority with a slash after it fixes the first segments, whatever comes then. -/
theorem readAuthority_append {front : List Char} (hfront : ∀ c ∈ front, endsPath c = false)
    (scheme : List Char) :
    (∃ fault, ∀ t, readAuthority .web scheme (front ++ '/' :: t) = .error fault) ∨
      ∃ a pieces, ∀ t,
        readAuthority .web scheme (front ++ '/' :: t) = .ok (within scheme a pieces t) := by
  cases hfound : authorityOf .web scheme (front.takeWhile (staysInAuthority .web)) false with
  | error fault =>
    left
    refine ⟨fault, fun t => ?_⟩
    rw [readAuthority_append_eq, hfound]
    rfl
  | ok found =>
    obtain ⟨a, more⟩ := found
    obtain ⟨pieces, hpath⟩ :=
      exists_readPath_append (more ++ front.dropWhile (staysInAuthority .web))
    have hends := forall_append_slash (forall_of_authorityOf hfront hfound)
    right
    refine ⟨a, pieces, fun t => ?_⟩
    rw [readAuthority_append_eq, hfound, Except.map, complete_append hends, within]
    simp only [List.append_assoc _ ['/'], List.singleton_append, hpath]

/-- The URL of a text that begins one, goes on with a slash, and then with any text. -/
theorem Opens.read_eq (h : Opens (tidyStart s) scheme rest) (t : List Char) :
    read (s ++ '/' :: t) =
      readAuthority .web scheme (rest.dropWhile (isSlash .web) ++ '/' :: tidyEnd t) := by
  have hscheme : scheme? (tidy (s ++ '/' :: t)) = some (scheme, rest ++ '/' :: tidyEnd t) := by
    rw [tidy_append]
    exact scheme?_append h.scheme_eq _
  have hfront : (rest.dropWhile (isSlash .web)).isEmpty = false := by
    obtain ⟨c, hc, hslash⟩ := h.exists_authority
    rw [← Bool.not_eq_true, List.isEmpty_iff, List.dropWhile_eq_nil_iff]
    exact fun hall => Bool.false_ne_true (hslash.symm.trans (hall c hc))
  rw [Url.read_eq hscheme h.kind_eq, List.dropWhile_append, hfront]
  rfl

theorem Opens.forall_dropWhile (h : Opens s scheme rest) :
    ∀ c ∈ rest.dropWhile (isSlash .web), endsPath c = false :=
  fun c hc => h.path c ((List.dropWhile_suffix _).subset hc)

/-- **A text that begins a URL and goes on with a slash fixes the scheme, the authority and the
first segments**, whatever comes after it. -/
theorem Opens.read_append (h : Opens (tidyStart s) scheme rest) :
    (∃ fault, ∀ t, read (s ++ '/' :: t) = .error fault) ∨
      ∃ a pieces, ∀ t, read (s ++ '/' :: t) = .ok (within scheme a pieces (tidyEnd t)) := by
  rcases readAuthority_append h.forall_dropWhile scheme with ⟨fault, hfault⟩ | ⟨a, pieces, hok⟩
  · left
    exact ⟨fault, fun t => (h.read_eq t).trans (hfault (tidyEnd t))⟩
  · right
    exact ⟨a, pieces, fun t => (h.read_eq t).trans (hok (tidyEnd t))⟩

/-! ## A slash at the end -/

/-- Two URLs have the same scheme and authority, and the same path up to the slashes at its
end. -/
structure SameUpToSlashes (u v : Url) : Prop where
  scheme : u.scheme = v.scheme
  authority : u.authority = v.authority
  path : u.path.text.rdropWhile (· == '/') = v.path.text.rdropWhile (· == '/')

theorem readPath_slash (s : List Char) :
    (readPath .web (s ++ ['/'])).text.rdropWhile (· == '/') =
      (readPath .web s).text.rdropWhile (· == '/') := by
  have hsegments : ∀ s, (readSegments .web (s ++ ['/'])).text.rdropWhile (· == '/') =
      (readSegments .web s).text.rdropWhile (· == '/') := by
    intro s
    have hslash : splitSlashes .web (s ++ ['/']) = splitSlashes .web s ++ [[]] :=
      splitSlashes_append .web s []
    rw [readSegments, readSegments, hslash]
    exact text_resolve_empty (by decide) (Text.splitOn_ne_nil _ _)
  cases s with
  | nil => rfl
  | cons c s =>
    rw [List.cons_append, readPath, readPath]
    split_ifs
    · exact hsegments s
    · exact hsegments (c :: s)

/-- An authority that something follows is one at the end, too. -/
theorem authorityOf_atEnd {front : List Char} {found : Authority × List Char}
    (h : authorityOf k scheme front false = .ok found) :
    authorityOf k scheme front true = .ok found := by
  rcases hsplit : (splitAtLast? '@' front).getD ([], front) with ⟨user, place⟩
  simp only [authorityOf, hsplit] at h ⊢
  split_ifs at h
  simpa using h

/-- A slash at the end of a text without a query and a fragment. -/
theorem readAuthority_slash {front : List Char} {v : Url}
    (hfront : ∀ c ∈ front, endsPath c = false)
    (h : readAuthority .web scheme front = .ok v)
    (hslash : readAuthority .web scheme (front ++ ['/']) = .ok u) : SameUpToSlashes u v := by
  rw [readAuthority_append_eq] at hslash
  obtain ⟨⟨a, more⟩, hfound, rfl⟩ := Except.map_eq_ok_iff.1 hslash
  have hfound' : authorityOf .web scheme (front.takeWhile (staysInAuthority .web))
      (front.dropWhile (staysInAuthority .web)).isEmpty = .ok (a, more) := by
    cases (front.dropWhile (staysInAuthority .web)).isEmpty with
    | false => exact hfound
    | true => exact authorityOf_atEnd hfound
  rw [readAuthority_eq, hfound'] at h
  cases h
  have hends := forall_of_authorityOf hfront hfound
  dsimp only
  rw [List.append_nil, complete_of_forall hends, complete_of_forall (forall_append_slash hends)]
  exact ⟨rfl, rfl, readPath_slash _⟩

/-- Slashes behind the first segments of a path add slashes only. -/
theorem sameUpToSlashes_within {slashes : List Char} (h : ∀ c ∈ slashes, c = '/')
    (scheme : List Char) (a : Authority) (pieces : List (List Char)) :
    SameUpToSlashes (within scheme a pieces []) (within scheme a pieces slashes) := by
  refine ⟨rfl, rfl, ?_⟩
  -- a slash more is an empty segment more
  induction slashes using List.reverseRecOn with
  | nil => rfl
  | append_singleton slashes c ih =>
    have hslashes : ∀ c ∈ slashes, c = '/' := fun c hc => h c (List.mem_append_left _ hc)
    have hpath : ∀ c ∈ slashes, endsPath c = false := fun c hc => by rw [hslashes c hc]; rfl
    obtain rfl : c = '/' := h c (List.mem_append_right _ (List.mem_singleton_self c))
    rw [within_append hpath, ih hslashes, within, complete_of_forall hpath]
    exact (text_resolve_empty (by decide) (List.append_ne_nil_of_right_ne_nil _
      (Text.splitOn_ne_nil _ _))).symm

/-- **The URL of a text that begins one, with one slash at its end**, is that of the text up to
slashes. -/
theorem Opens.sameUpToSlashes {slashes : List Char} {v : Url} (h : Opens (tidyStart s) scheme rest)
    (hslashes : ∀ c ∈ slashes, c = '/') (hlast : ∀ c ∈ (s ++ slashes).getLast?, isEdge c = false)
    (hv : read (s ++ slashes) = .ok v) (hu : read (s ++ ['/']) = .ok u) : SameUpToSlashes u v := by
  cases slashes with
  | nil =>
    rw [List.append_nil] at hlast hv
    have hscheme : scheme? (tidy s) = some (scheme, rest) := by
      rw [tidy_eq_tidyStart hlast, h.scheme_eq]
    rw [Url.read_eq hscheme h.kind_eq] at hv
    rw [h.read_eq] at hu
    exact readAuthority_slash h.forall_dropWhile hv hu
  | cons c slashes =>
    obtain ⟨rfl, hmore⟩ := List.forall_mem_cons.1 hslashes
    rcases h.read_append with ⟨fault, hfault⟩ | ⟨a, pieces, hwithin⟩
    · rw [hfault] at hu
      cases hu
    · rw [hwithin] at hu hv
      rw [← Except.ok.inj hu, ← Except.ok.inj hv]
      exact sameUpToSlashes_within
        (fun c hc => hmore c ((tidyEnd_sublist slashes).subset hc)) scheme a pieces

end TabularQuery.Url
