import ClusterKeeper.Proofs.Percent
import ClusterKeeper.Url.Basic
import Mathlib.Data.List.Basic

/-!
# Segments of a path

A path is cut at its slashes, its dot segments are resolved, and each segment that is left is
written after a slash of its own.

* `Text.cutWhere_append_cons`: pieces on either side of a cut.
* `resolve_append`: segments are resolved one after another.
* `exists_last_of_resolve`: the last one is what stands last, unless that is a dot segment.
* `path_under`: what is put under a path goes on with its segments.
* `written_resolve_iff`: what is written under a path is one segment for a text exactly if the text
  is such a segment.
-/

namespace ClusterKeeper

namespace Text

variable {p : Char → Bool} {c : Char} {cs piece : List Char}

theorem cutWhere_cons_of_pos (hc : p c = true) : cutWhere p (c :: cs) = [] :: cutWhere p cs := by
  rw [cutWhere, if_pos hc]

theorem exists_cutWhere (p : Char → Bool) (cs : List Char) :
    ∃ first more, cutWhere p cs = first :: more := by
  cases cs with
  | nil => exact ⟨[], [], rfl⟩
  | cons c cs =>
    rw [cutWhere]
    split
    · exact ⟨_, _, rfl⟩
    · split
      · exact ⟨_, _, rfl⟩
      · exact ⟨_, _, rfl⟩

theorem cutWhere_cons_of_neg (hc : p c = false) {first : List Char} {more : List (List Char)}
    (h : cutWhere p cs = first :: more) : cutWhere p (c :: cs) = (c :: first) :: more := by
  rw [cutWhere, if_neg (by rw [hc]; exact Bool.false_ne_true), h]

/-- **The pieces on either side of a cut** are those of what stands there. -/
theorem cutWhere_append_cons (hc : p c = true) (xs ys : List Char) :
    cutWhere p (xs ++ c :: ys) = cutWhere p xs ++ cutWhere p ys := by
  induction xs with
  | nil => exact cutWhere_cons_of_pos hc
  | cons x xs ih =>
    rw [List.cons_append]
    cases hx : p x with
    | true => rw [cutWhere_cons_of_pos hx, cutWhere_cons_of_pos hx, ih, List.cons_append]
    | false =>
      obtain ⟨first, more, h⟩ := exists_cutWhere p xs
      have happ : cutWhere p (xs ++ c :: ys) = first :: (more ++ cutWhere p ys) := by
        rw [ih, h, List.cons_append]
      rw [cutWhere_cons_of_neg hx happ, cutWhere_cons_of_neg hx h, List.cons_append]

/-- Text without a cut is one piece. -/
theorem cutWhere_of_forall (h : ∀ c ∈ cs, p c = false) : cutWhere p cs = [cs] := by
  induction cs with
  | nil => rfl
  | cons c cs ih =>
    rw [List.forall_mem_cons] at h
    exact cutWhere_cons_of_neg h.1 (ih h.2)

theorem sublist_of_mem_cutWhere (h : piece ∈ cutWhere p cs) :
    piece.Sublist cs ∧ ∀ c ∈ piece, p c = false := by
  induction cs generalizing piece with
  | nil =>
    cases List.mem_singleton.1 h
    exact ⟨List.Sublist.refl [], List.forall_mem_nil _⟩
  | cons c cs ih =>
    cases hc : p c with
    | true =>
      rw [cutWhere_cons_of_pos hc, List.mem_cons] at h
      rcases h with rfl | h
      · exact ⟨List.nil_sublist _, List.forall_mem_nil _⟩
      · exact ⟨(ih h).1.cons c, (ih h).2⟩
    | false =>
      obtain ⟨first, more, hcut⟩ := exists_cutWhere p cs
      rw [cutWhere_cons_of_neg hc hcut, List.mem_cons] at h
      rw [hcut] at ih
      rcases h with rfl | h
      · have hfirst := ih List.mem_cons_self
        exact ⟨hfirst.1.cons_cons c, List.forall_mem_cons.2 ⟨hc, hfirst.2⟩⟩
      · have hmore := ih (List.mem_cons_of_mem _ h)
        exact ⟨hmore.1.cons c, hmore.2⟩

end Text

namespace Url

variable {done before segments : List (List Char)} {segment name text : List Char}

/-! ## Dot segments -/

/-- A segment that stands for a place by itself. -/
def IsDot (segment : List Char) : Prop := isHere segment = true ∨ isAbove segment = true

/-- Where nothing is encoded dots are written as they are. -/
theorem plainDots_of_literal (h : Percent.Literal segment) : plainDots segment = segment := by
  have hdot (e : Char) (he : (Percent.value? e).isSome = true) {rest : List Char}
      (h : Percent.Literal ('%' :: '2' :: e :: rest)) : False := by
    rcases (Percent.literal_cons_iff.1 h).1 rfl '2' e rest rfl with hd | hd
    · exact absurd hd (by decide)
    · rw [hd] at he
      exact Bool.false_ne_true he
  induction segment using plainDots.induct with
  | case1 rest ih => exact (hdot 'e' (by decide) h).elim
  | case2 rest ih => exact (hdot 'E' (by decide) h).elim
  | case3 c rest hlower hupper ih =>
    rw [plainDots, ih (Percent.literal_cons_iff.1 h).2]
    · exact hlower
    · exact hupper
  | case4 => rfl

/-- Where nothing is encoded a dot segment is one dot or two. -/
theorem isDot_iff_of_literal (h : Percent.Literal segment) :
    IsDot segment ↔ segment = ['.'] ∨ segment = ['.', '.'] := by
  rw [IsDot, isHere, isAbove, plainDots_of_literal h, beq_iff_eq, beq_iff_eq]

/-- What a segment leaves of those before it, last one first. -/
def pass (done : List (List Char)) (segment : List Char) : List (List Char) :=
  if isAbove segment then done.tail else if isHere segment then done else segment :: done

theorem pass_of_not_dot (h : ¬ IsDot segment) : pass done segment = segment :: done := by
  rw [IsDot, not_or] at h
  rw [pass, if_neg h.2, if_neg h.1]

theorem resolve_cons (h : segments ≠ []) :
    resolve done (segment :: segments) = resolve (pass done segment) segments := by
  cases segments with
  | nil => exact absurd rfl h
  | cons next rest =>
    rw [resolve, pass]
    · split
      · rfl
      · split
        · rfl
        · rfl
    · exact nofun

/-- **Segments are resolved one after another.** -/
theorem resolve_append (h : segments ≠ []) :
    resolve done (before ++ segments) = resolve (before.foldl pass done) segments := by
  induction before generalizing done with
  | nil => rfl
  | cons segment before ih =>
    have hne : before ++ segments ≠ [] := List.append_ne_nil_of_right_ne_nil before h
    rw [List.cons_append, resolve_cons hne, ih, List.foldl_cons]

theorem resolve_singleton (h : ¬ IsDot segment) :
    resolve done [segment] = done.reverse ++ [segment] := by
  rw [IsDot, not_or] at h
  rw [resolve, if_neg h.2, if_neg h.1, List.reverse_cons]

/-- **The last segment** that is left is the last one, or empty if that is a dot segment. -/
theorem exists_last_of_resolve (done : List (List Char)) (h : segments ≠ []) :
    ∃ kept last, resolve done segments = kept ++ [last] ∧
      (last = [] ∨ last ∈ segments ∧ ¬ IsDot last) := by
  induction segments generalizing done with
  | nil => exact absurd rfl h
  | cons segment rest ih =>
    by_cases hrest : rest = []
    · subst hrest
      by_cases hdot : IsDot segment
      · rw [resolve]
        split
        · exact ⟨_, [], List.reverse_cons, Or.inl rfl⟩
        · rename_i habove
          rw [if_pos (hdot.resolve_right habove)]
          exact ⟨_, [], List.reverse_cons, Or.inl rfl⟩
      · exact ⟨_, segment, resolve_singleton hdot, Or.inr ⟨List.mem_cons_self, hdot⟩⟩
    · rw [resolve_cons hrest]
      obtain ⟨kept, last, hlast, hmem⟩ := ih (pass done segment) hrest
      exact ⟨kept, last, hlast, hmem.imp_right fun hm => ⟨List.mem_cons_of_mem _ hm.1, hm.2⟩⟩

/-! ## Writing -/

/-- Segments as they are written, each after a slash. -/
def written (segments : List (List Char)) : List Char :=
  segments.flatMap fun s => '/' :: Percent.encode pathSpecial s

theorem written_append (xs ys : List (List Char)) : written (xs ++ ys) = written xs ++ written ys :=
  List.flatMap_append

theorem written_singleton (segment : List Char) :
    written [segment] = '/' :: Percent.encode pathSpecial segment := by
  rw [written, List.flatMap_cons, List.flatMap_nil, List.append_nil]

/-- No slash comes of encoding. -/
theorem slash_not_mem_encode (h : '/' ∉ segment) : '/' ∉ Percent.encode pathSpecial segment := by
  intro hm
  rcases Percent.mem_encode hm with hs | hs | hs
  · exact h hs
  · exact absurd hs (by decide)
  · exact absurd hs (by decide)

theorem decode_encode_path (segment : List Char) :
    Percent.decode (Percent.encode pathSpecial segment) = Percent.decode segment := by
  have hdigit : ∀ c ∈ pathSpecial, Percent.value? c = none := by
    simp [pathSpecial, Percent.value?]
  exact Percent.decode_encode (by decide) hdigit segment

/-- The last slash of a text is in one place. -/
theorem append_slash_inj {xs ys xs' ys' : List Char} (hy : '/' ∉ ys) (hy' : '/' ∉ ys')
    (h : xs ++ '/' :: ys = xs' ++ '/' :: ys') : ys = ys' := by
  have hspan (xs : List Char) {ys : List Char} (hy : '/' ∉ ys) :
      ((xs ++ '/' :: ys).reverse.takeWhile fun c => c ≠ '/') = ys.reverse := by
    have hkeep : ∀ c ∈ ys.reverse, decide (c ≠ '/') = true := fun c hc =>
      decide_eq_true fun hs => hy (hs ▸ List.mem_reverse.1 hc)
    rw [List.reverse_append, List.reverse_cons, List.append_assoc,
      List.takeWhile_append_of_pos hkeep]
    exact List.append_nil _
  have hrev : ys.reverse = ys'.reverse := by
    rw [← hspan xs hy, h, hspan xs' hy']
  exact List.reverse_inj.1 hrev

/-- **One segment for a text.** What is left of a text is written under a path as one segment that
stands for the text exactly if all of it is left, and it is a segment, no dot segment, and stands
for itself. -/
theorem written_resolve_iff (done : List (List Char)) (hn : name ≠ [])
    (ht : text.Sublist name) :
    (∃ segment, '/' ∉ segment ∧ Percent.decode segment = name.flatMap String.utf8EncodeChar ∧
      written (resolve done (Text.cutWhere isSlash text)) =
        written done.reverse ++ '/' :: segment) ↔
    text = name ∧ (∀ c ∈ name, isSlash c = false) ∧ ¬ IsDot name ∧ Percent.Literal name := by
  rw [← Percent.decode_eq_iff]
  constructor
  · rintro ⟨segment, hslash, hdecode, hwritten⟩
    obtain ⟨first, more, hcut⟩ := Text.exists_cutWhere isSlash text
    have hne : Text.cutWhere isSlash text ≠ [] := hcut ▸ List.cons_ne_nil _ _
    obtain ⟨kept, last, hresolve, hlast⟩ := exists_last_of_resolve done hne
    have hclean : '/' ∉ last := by
      rcases hlast with rfl | ⟨hm, _⟩
      · exact List.not_mem_nil
      · intro hc
        exact absurd ((Text.sublist_of_mem_cutWhere hm).2 '/' hc) (by decide)
    rw [hresolve, written_append, written_singleton] at hwritten
    -- what is written after the last slash is the segment, so the last one left stands for the name
    have hsegment := append_slash_inj (slash_not_mem_encode hclean) hslash hwritten
    have hstands : Percent.decode last = name.flatMap String.utf8EncodeChar := by
      rw [← decode_encode_path, hsegment, hdecode]
    have hlength := Percent.length_decode_le last
    rw [hstands] at hlength
    rcases hlast with rfl | ⟨hm, hdot⟩
    · -- an empty segment stands for nothing
      exact absurd (Percent.eq_of_sublist (List.nil_sublist name) hlength).symm hn
    · -- a part of the name stands for it only if it is all of it
      obtain ⟨hsub, hwhole⟩ := Text.sublist_of_mem_cutWhere hm
      obtain rfl : last = name := Percent.eq_of_sublist (hsub.trans ht) hlength
      exact ⟨ht.antisymm hsub, hwhole, hdot, hstands⟩
  · rintro ⟨rfl, hwhole, hdot, hstands⟩
    refine ⟨Percent.encode pathSpecial text, slash_not_mem_encode fun hc => ?_, ?_, ?_⟩
    · exact absurd (hwhole '/' hc) (by decide)
    · rw [decode_encode_path, hstands]
    · rw [Text.cutWhere_of_forall hwhole, resolve_singleton hdot, written_append, written_singleton]

/-- **What is put under a path** goes on with the segments of that path. -/
theorem path_under {root place : List Char}
    (hroot : root = [] ∨ ∃ c more, isSlash c = true ∧ root = c :: more)
    (hslash : ∀ c ∈ place, isSlash c = false) (hdot : ¬ IsDot place) :
    ∃ done, pathText (root ++ '/' :: place) = written done.reverse ∧
      ∀ text, pathText (root ++ '/' :: (place ++ '/' :: text)) =
        written (resolve done (Text.cutWhere isSlash text)) := by
  have hpath {c : Char} (hc : isSlash c = true) (cs : List Char) :
      pathText (c :: cs) = written (resolve [] (Text.cutWhere isSlash cs)) := by
    unfold pathText
    simp only [hc, if_true]
    rfl
  have hne (text : List Char) : Text.cutWhere isSlash text ≠ [] := by
    obtain ⟨first, more, hcut⟩ := Text.exists_cutWhere isSlash text
    exact hcut ▸ List.cons_ne_nil _ _
  have hsingle : Text.cutWhere isSlash place = [place] := Text.cutWhere_of_forall hslash
  have hsign : isSlash '/' = true := by decide
  rcases hroot with rfl | ⟨c, more, hc, rfl⟩
  · refine ⟨[place], ?_, fun text => ?_⟩
    · rw [List.nil_append, hpath hsign, hsingle, resolve_singleton hdot]
      rfl
    · rw [List.nil_append, hpath hsign, Text.cutWhere_append_cons hsign, hsingle,
        resolve_append (hne text), List.foldl_cons, List.foldl_nil, pass_of_not_dot hdot]
  · refine ⟨place :: (Text.cutWhere isSlash more).foldl pass [], ?_, fun text => ?_⟩
    · rw [List.cons_append, hpath hc, Text.cutWhere_append_cons hsign, hsingle,
        resolve_append (List.cons_ne_nil _ _), resolve_singleton hdot, List.reverse_cons]
    · rw [List.cons_append, hpath hc, Text.cutWhere_append_cons hsign,
        Text.cutWhere_append_cons hsign, hsingle, ← List.append_assoc, resolve_append (hne text),
        List.foldl_append, List.foldl_cons, List.foldl_nil, pass_of_not_dot hdot]

end Url

end ClusterKeeper
