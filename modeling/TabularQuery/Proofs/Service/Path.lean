import Mathlib.Data.List.DropRight
import TabularQuery.Proofs.Service.Percent
import TabularQuery.Proofs.Text.Pieces
import TabularQuery.Service.Url

/-!
# Paths of URLs

The segments of a path are carried out one after the other: one that stands for the segment
before it leaves that, one that stands for nothing is passed over, and every other one is
written down.  The last segment differs from the others in one thing: where nothing of it is
written down, an empty segment stands in its place.  So a path always ends with a slash and
what the last segment has become.

## Main definitions

* `Url.enter`, `Url.lastText` — what becomes of a segment, and of the last one.
* `Url.text_resolve` — the text of a path.
* `Url.exists_splitSlashes_eq` — the last segment of a text.
-/

namespace TabularQuery.Url

variable {k : Kind} {s t last : List Char} {pieces : List (List Char)}

/-! ## Segments -/

/-- Only escapes of points are taken back. -/
theorem plainPoints_eq_self (h : Percent.Unescaped s) : plainPoints s = s := by
  induction s using plainPoints.induct with
  | case1 rest => exact (h '2' 'e' ⟨[], rest, rfl⟩ rfl rfl).elim
  | case2 rest => exact (h '2' 'E' ⟨[], rest, rfl⟩ rfl rfl).elim
  | case3 c rest hsmall hgreat ih =>
    rw [plainPoints, ih (Percent.unescaped_cons_iff.1 h).2]
    · exact hsmall
    · exact hgreat
  | case4 => rfl

theorem isParent_eq_false (h : Percent.Unescaped s) (hs : s ≠ ['.', '.']) : isParent s = false := by
  rw [isParent, plainPoints_eq_self h, beq_eq_false_iff_ne]
  exact hs

theorem isHere_eq_false (h : Percent.Unescaped s) (hs : s ≠ ['.']) : isHere s = false := by
  rw [isHere, plainPoints_eq_self h, beq_eq_false_iff_ne]
  exact hs

/-- A segment stands for the same bytes in its written form. -/
theorem decode_segmentText (s : List Char) :
    Percent.decode (segmentText s) = Percent.decode s :=
  Percent.decode_encode (by decide) (fun _ => Percent.staysInPath_of_hexValue?) s

/-! ## Pieces between slashes -/

theorem splitSlashes_append (k : Kind) (s t : List Char) :
    splitSlashes k (s ++ '/' :: t) = splitSlashes k s ++ splitSlashes k t := by
  have hslash : (if isSlash k '/' = true then '/' else '/') = '/' := ite_self '/'
  rw [splitSlashes, List.map_append, List.map_cons, hslash, Text.splitOn_append]
  rfl

theorem map_slashes_eq_self (h : ∀ c ∈ s, isSlash k c = false) :
    s.map (fun c => if isSlash k c then '/' else c) = s := by
  refine (List.map_congr_left fun c hc => ?_).trans (List.map_id s)
  rw [h c hc, if_neg Bool.false_ne_true, id]

theorem slash_not_mem (h : ∀ c ∈ s, isSlash k c = false) : '/' ∉ s := by
  intro hslash
  cases h '/' hslash

theorem splitSlashes_eq_singleton (h : ∀ c ∈ s, isSlash k c = false) : splitSlashes k s = [s] := by
  rw [splitSlashes, map_slashes_eq_self h, Text.splitOn_of_notMem (slash_not_mem h)]

/-- The last segment of a text is a part of it, without slashes. -/
theorem exists_splitSlashes_eq (k : Kind) (s : List Char) :
    ∃ pieces last, splitSlashes k s = pieces ++ [last] ∧ last.Sublist s ∧
      ∀ c ∈ last, isSlash k c = false := by
  obtain ⟨pieces, _, hsplit, hsub, hslash⟩ := Text.exists_splitOn_eq '/'
    (s.map fun c => if isSlash k c then '/' else c)
  obtain ⟨last, hlast, rfl⟩ := List.sublist_map_iff.1 hsub
  have hfree : ∀ c ∈ last, isSlash k c = false := by
    intro c hc
    by_contra hne
    rw [Bool.not_eq_false] at hne
    exact hslash (List.mem_map.2 ⟨c, hc, if_pos hne⟩)
  rw [map_slashes_eq_self hfree] at hsplit
  exact ⟨pieces, last, hsplit, hlast, hfree⟩

/-! ## Carrying out segments -/

/-- The segments so far after one that is not the last. -/
def enter (earlier : List (List Char)) (segment : List Char) : List (List Char) :=
  if isParent segment then leave earlier
  else if isHere segment then earlier
  else segmentText segment :: earlier

/-- The segments that stay before the last one. -/
def keepBefore (earlier : List (List Char)) (last : List Char) : List (List Char) :=
  if isParent last then leave earlier else earlier

/-- What is written down of the last segment. -/
def lastText (last : List Char) : List Char :=
  if isParent last || isHere last then [] else segmentText last

theorem lastText_eq_segmentText (hparent : isParent last = false) (hhere : isHere last = false) :
    lastText last = segmentText last := by
  rw [lastText, hparent, hhere]
  rfl

theorem slash_not_mem_lastText (h : '/' ∉ last) : '/' ∉ lastText last := by
  rw [lastText]
  split_ifs
  · exact List.not_mem_nil
  · exact Percent.slash_not_mem_encode h

theorem resolve_singleton (k : Kind) (earlier : List (List Char)) (last : List Char) :
    resolve k earlier [last] = (lastText last :: keepBefore earlier last).reverse := by
  rw [resolve, lastText, keepBefore]
  cases hparent : isParent last with
  | true => rfl
  | false =>
    cases hhere : isHere last with
    | true => rfl
    | false => rfl

theorem resolve_cons (hk : k ≠ .file) (earlier : List (List Char)) (segment : List Char)
    (hpieces : pieces ≠ []) :
    resolve k earlier (segment :: pieces) = resolve k (enter earlier segment) pieces := by
  obtain ⟨next, more, rfl⟩ := List.exists_cons_of_ne_nil hpieces
  have hfile : (k = .file && earlier.isEmpty && isDrive segment) = false := by simp [hk]
  rw [resolve, enter, hfile, if_neg Bool.false_ne_true]
  · split_ifs
    · rfl
    · rfl
    · rfl
  · exact List.cons_ne_nil next more

/-- The segments of a path, carried out. -/
theorem resolve_append_singleton (hk : k ≠ .file) (earlier : List (List Char))
    (pieces : List (List Char)) (last : List Char) :
    resolve k earlier (pieces ++ [last]) =
      (lastText last :: keepBefore (pieces.foldl enter earlier) last).reverse := by
  induction pieces generalizing earlier with
  | nil => exact resolve_singleton k earlier last
  | cons segment pieces ih =>
    rw [List.cons_append, resolve_cons hk earlier segment (List.append_ne_nil_of_right_ne_nil _
      (List.cons_ne_nil last [])), ih, List.foldl_cons]

/-- **The text of a path** ends with a slash and what is written down of its last segment. -/
theorem text_resolve (hk : k ≠ .file) (pieces : List (List Char)) (last : List Char) :
    (UrlPath.segments (resolve k [] (pieces ++ [last]))).text =
      (UrlPath.segments (keepBefore (pieces.foldl enter []) last).reverse).text ++
        '/' :: lastText last := by
  rw [resolve_append_singleton hk, List.reverse_cons]
  simp [UrlPath.text]

/-- An empty segment at the end of a path adds a slash at most. -/
theorem text_resolve_empty (hk : k ≠ .file) (hpieces : pieces ≠ []) :
    (UrlPath.segments (resolve k [] (pieces ++ [[]]))).text.rdropWhile (· == '/') =
      (UrlPath.segments (resolve k [] pieces)).text.rdropWhile (· == '/') := by
  obtain rfl | ⟨before, last, rfl⟩ := List.eq_nil_or_concat' pieces
  · exact absurd rfl hpieces
  · have hkeep : ∀ earlier, keepBefore earlier [] = earlier := fun _ => rfl
    have htext : lastText [] = [] := rfl
    simp only [text_resolve hk, List.foldl_append, List.foldl_cons, List.foldl_nil, hkeep, htext]
    cases hparent : isParent last with
    | true => simp [enter, keepBefore, lastText, hparent]
    | false =>
      cases hhere : isHere last with
      | true => simp [enter, keepBefore, lastText, hparent, hhere]
      | false =>
        rw [List.rdropWhile_concat_pos _ _ _ (by rfl)]
        simp [enter, keepBefore, lastText, hparent, hhere, UrlPath.text]

end TabularQuery.Url
