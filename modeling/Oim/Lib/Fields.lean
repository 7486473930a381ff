import Mathlib

/-!
# Separated fields

A sequence cut at a separator, with the empty pieces dropped — the way paths are
usually read, where leading, trailing and repeated separators mean nothing — and
the pieces put together again with single separators.

* `Clean` — fields that are not empty and do not contain the separator, which is
  what cutting produces (`clean_fields`).
* `fields_join` — cutting undoes joining, so on clean fields joining is injective
  (`join_inj`).
* `join_prefix_iff` — a joined sequence starts with another one **at a field
  boundary** exactly if the list of fields does.
* `Pieces` — all pieces between separators, the empty ones included; there is one
  such list for each sequence (`pieces_splitOnP`, `Pieces.eq`).
* `eqvGen_slack_iff` — two sequences have the same fields exactly if they differ
  in leading, trailing and repeated separators only.
-/

namespace Fields

variable {α : Type} [DecidableEq α] {sep : α}

/-- The non-empty pieces between separators. -/
def fields (sep : α) (l : List α) : List (List α) :=
  (l.splitOnP (· == sep)).filter fun f => f ≠ []

/-- The fields with single separators between them. -/
def join (sep : α) (fs : List (List α)) : List α := [sep].intercalate fs

/-- No field is empty or contains the separator. -/
def Clean (sep : α) (fs : List (List α)) : Prop := ∀ f ∈ fs, f ≠ [] ∧ sep ∉ f

theorem not_mem_of_mem_splitOnP {l f : List α} (h : f ∈ l.splitOnP (· == sep)) : sep ∉ f := by
  induction l generalizing f with
  | nil =>
    rw [List.splitOnP_nil, List.mem_singleton] at h
    simp [h]
  | cons a l ih =>
    rw [List.splitOnP_cons_eq_if_modifyHead] at h
    split_ifs at h with ha
    · rcases List.mem_cons.1 h with rfl | h
      · simp
      · exact ih h
    · cases hs : l.splitOnP (· == sep) with
      | nil => rw [hs] at h; simp at h
      | cons g gs =>
        rw [hs, List.modifyHead_cons, List.mem_cons] at h
        rcases h with rfl | h
        · have hg : sep ∉ g := ih (by simp [hs])
          have hne : sep ≠ a := fun he => ha (by simp [he])
          simp [hg, hne]
        · exact ih (by simp [hs, h])

variable (sep) in
theorem clean_fields (l : List α) : Clean sep (fields sep l) := by
  intro f hf
  rw [fields, List.mem_filter, decide_eq_true_eq] at hf
  exact ⟨hf.2, not_mem_of_mem_splitOnP hf.1⟩

omit [DecidableEq α] in
theorem Clean.filter_ne_nil {fs : List (List α)} (h : Clean sep fs) :
    fs.filter (fun f => f ≠ []) = fs :=
  List.filter_eq_self.2 fun f hf => by simpa using (h f hf).1

/-- **Cutting undoes joining.** -/
theorem fields_join {fs : List (List α)} (h : Clean sep fs) : fields sep (join sep fs) = fs := by
  by_cases hne : fs = []
  · subst hne
    simp [fields, join]
  · have hsplit : (join sep fs).splitOnP (· == sep) = fs :=
      List.splitOn_intercalate sep (fun f hf => (h f hf).2) hne
    rw [fields, hsplit, h.filter_ne_nil]

theorem join_inj {fs gs : List (List α)} (hf : Clean sep fs) (hg : Clean sep gs)
    (h : join sep fs = join sep gs) : fs = gs := by
  rw [← fields_join hf, ← fields_join hg, h]

/-- Empty fields may take part as long as there is any field at all. -/
theorem join_inj_of_ne_nil {fs gs : List (List α)} (hf : ∀ f ∈ fs, sep ∉ f)
    (hg : ∀ g ∈ gs, sep ∉ g) (hfne : fs ≠ []) (hgne : gs ≠ []) (h : join sep fs = join sep gs) :
    fs = gs := by
  rw [← List.splitOn_intercalate sep hf hfne, ← List.splitOn_intercalate sep hg hgne]
  exact congrArg (List.splitOn sep) h

theorem fields_append_cons (l l' : List α) :
    fields sep (l ++ sep :: l') = fields sep l ++ fields sep l' := by
  unfold fields
  rw [List.splitOnP_append_cons l l' (by simp), List.filter_append]

omit [DecidableEq α] in
theorem join_append {fs gs : List (List α)} (hf : fs ≠ []) (hg : gs ≠ []) :
    join sep (fs ++ gs) = join sep fs ++ sep :: join sep gs := by
  unfold join
  induction fs with
  | nil => exact absurd rfl hf
  | cons f fs ih =>
    cases fs with
    | nil =>
      obtain ⟨g, gs, rfl⟩ := List.exists_cons_of_ne_nil hg
      simp [List.intercalate_cons_cons]
    | cons f' fs =>
      rw [List.cons_append, List.cons_append, List.intercalate_cons_cons,
        List.intercalate_cons_cons, ← List.cons_append, ih (by simp)]
      simp

/-- `l` starts with `m`, and `m` ends where a field of `l` does. -/
def StartsAt (sep : α) (m l : List α) : Prop :=
  m <+: l ∧ (l.length = m.length ∨ l[m.length]? = some sep)

/-- **Prefixes at a boundary are prefixes of fields.** -/
theorem join_prefix_iff {fs gs : List (List α)} (hf : Clean sep fs) (hg : Clean sep gs)
    (hne : fs ≠ []) : StartsAt sep (join sep fs) (join sep gs) ↔ fs <+: gs := by
  constructor
  · rintro ⟨⟨rest, hrest⟩, hbound⟩
    rw [← hrest] at hbound
    cases rest with
    | nil =>
      rw [List.append_nil] at hrest
      rw [join_inj hf hg hrest]
    | cons a rest =>
      -- the next element is the separator, and cutting there gives the fields
      have ha : a = sep := by simpa using hbound
      subst ha
      refine ⟨fields a rest, ?_⟩
      rw [← fields_join hg, ← hrest, fields_append_cons, fields_join hf]
  · rintro ⟨rest, rfl⟩
    by_cases hr : rest = []
    · subst hr
      rw [List.append_nil]
      exact ⟨List.prefix_refl _, Or.inl rfl⟩
    · rw [join_append hne hr]
      exact ⟨List.prefix_append _ _, Or.inr (by simp)⟩

/-! ## Pieces -/

/-- The maximal pieces of `l` without a separator, in order: with single separators
between them they are `l`. -/
structure Pieces (sep : α) (l : List α) (ws : List (List α)) : Prop where
  ne_nil : ws ≠ []
  sep_notMem : ∀ w ∈ ws, sep ∉ w
  whole : join sep ws = l

variable (sep) in
theorem pieces_splitOnP (l : List α) : Pieces sep l (l.splitOnP (· == sep)) where
  ne_nil := List.splitOnP_ne_nil _ l
  sep_notMem := fun _ hw => not_mem_of_mem_splitOnP hw
  whole := List.intercalate_splitOn sep

theorem Pieces.eq {l : List α} {ws : List (List α)} (h : Pieces sep l ws) :
    l.splitOnP (· == sep) = ws := by
  rw [← h.whole]
  exact List.splitOn_intercalate sep h.sep_notMem h.ne_nil

theorem Pieces.fields {l : List α} {ws : List (List α)} (h : Pieces sep l ws) :
    Fields.fields sep l = ws.filter fun f => f ≠ [] := by
  rw [Fields.fields, h.eq]

omit [DecidableEq α] in
theorem pieces_singleton {w : List α} (h : sep ∉ w) : Pieces sep w [w] where
  ne_nil := List.cons_ne_nil _ _
  sep_notMem := by simpa using h
  whole := by simp [join]

/-- The last piece is what stands behind the last separator. -/
theorem getLast?_splitOnP {l w : List α} :
    (l.splitOnP (· == sep)).getLast? = some w ↔
      sep ∉ w ∧ (l = w ∨ ∃ b, l = b ++ sep :: w) := by
  constructor
  · intro h
    obtain ⟨init, hinit⟩ := List.getLast?_eq_some_iff.1 h
    have hpieces := pieces_splitOnP sep l
    rw [hinit] at hpieces
    refine ⟨hpieces.sep_notMem w (by simp), ?_⟩
    rcases eq_or_ne init [] with rfl | hne
    · left
      rw [← hpieces.whole]
      simp [join]
    · right
      refine ⟨join sep init, ?_⟩
      rw [← hpieces.whole, join_append hne (List.cons_ne_nil w [])]
      simp [join]
  · rintro ⟨hw, rfl | ⟨b, rfl⟩⟩
    · rw [(pieces_singleton hw).eq]
      rfl
    · rw [List.splitOnP_append_cons b w (by simp), (pieces_singleton hw).eq]
      simp

/-! ## Separators that mean nothing -/

/-- One separator less, where it does not separate two fields. -/
inductive Slack (sep : α) : List α → List α → Prop
  | leading (l : List α) : Slack sep (sep :: l) l
  | trailing (l : List α) : Slack sep (l ++ [sep]) l
  | repeated (l m : List α) : Slack sep (l ++ sep :: sep :: m) (l ++ sep :: m)

theorem fields_cons_sep (l : List α) : fields sep (sep :: l) = fields sep l := by
  have h : fields sep ([] ++ sep :: l) = fields sep [] ++ fields sep l := fields_append_cons [] l
  simpa [fields] using h

theorem fields_concat_sep (l : List α) : fields sep (l ++ [sep]) = fields sep l := by
  rw [fields_append_cons]
  simp [fields]

theorem Slack.fields {l m : List α} (h : Slack sep l m) :
    Fields.fields sep l = Fields.fields sep m := by
  cases h with
  | leading => exact fields_cons_sep m
  | trailing => exact fields_concat_sep m
  | repeated l m => rw [fields_append_cons, fields_cons_sep, fields_append_cons]

omit [DecidableEq α] in
/-- Behind a separator a leading one is a repeated one, so steps can be made there. -/
theorem Slack.behind (w : List α) {l m : List α} (h : Slack sep l m) :
    Slack sep (w ++ sep :: l) (w ++ sep :: m) := by
  cases h with
  | leading => exact .repeated w m
  | trailing =>
    rw [← List.cons_append, ← List.append_assoc]
    exact .trailing _
  | repeated l m =>
    rw [← List.cons_append, ← List.append_assoc, ← List.cons_append, ← List.append_assoc]
    exact .repeated _ m

omit [DecidableEq α] in
/-- The separator behind `w` goes if there is nothing on one of its sides. -/
theorem slack_front (w : List α) (fs : List (List α)) :
    Relation.ReflTransGen (Slack sep) (w ++ sep :: join sep fs)
      (join sep (if w = [] then fs else w :: fs)) := by
  by_cases hw : w = []
  · rw [if_pos hw, hw]
    exact .single (.leading _)
  · rw [if_neg hw]
    by_cases hfs : fs = []
    · subst hfs
      have hlast : join sep [w] = w := by simp [join]
      rw [hlast]
      exact .single (.trailing _)
    · have hjoin : join sep ([w] ++ fs) = join sep [w] ++ sep :: join sep fs :=
        join_append (List.cons_ne_nil w []) hfs
      rw [List.singleton_append] at hjoin
      rw [hjoin]
      simp only [join, List.intercalate_singleton]
      exact .refl

omit [DecidableEq α] in
/-- Pieces lose the empty ones among them by such steps. -/
theorem slack_join (ws : List (List α)) :
    Relation.ReflTransGen (Slack sep) (join sep ws) (join sep (ws.filter fun f => f ≠ [])) := by
  induction ws with
  | nil => exact .refl
  | cons w ws ih =>
    have hcons : (w :: ws).filter (fun f => f ≠ []) =
        if w = [] then ws.filter (fun f => f ≠ []) else w :: ws.filter fun f => f ≠ [] := by
      by_cases hw : w = [] <;> simp [hw]
    cases ws with
    | nil =>
      rw [hcons]
      split_ifs with hw
      · subst hw
        exact .refl
      · exact .refl
    | cons w' ws =>
      have hjoin : join sep (w :: w' :: ws) = w ++ sep :: join sep (w' :: ws) := by
        simp [join, List.intercalate_cons_cons]
      rw [hjoin, hcons]
      exact (ih.lift (fun l => w ++ sep :: l) fun _ _ h => h.behind w).trans (slack_front w _)

theorem eqvGen_slack_join (l : List α) :
    Relation.EqvGen (Slack sep) l (join sep (fields sep l)) := by
  have h : Relation.ReflTransGen (Slack sep) _ (join sep (fields sep l)) :=
    slack_join (l.splitOnP (· == sep))
  rw [(pieces_splitOnP sep l).whole] at h
  exact Relation.EqvGen.reflTransGen_le_eqvGen _ _ _ h

/-- **The same fields are the same up to leading, trailing and repeated separators.** -/
theorem eqvGen_slack_iff {l m : List α} :
    Relation.EqvGen (Slack sep) l m ↔ fields sep l = fields sep m := by
  constructor
  · intro h
    induction h with
    | rel _ _ hstep => exact hstep.fields
    | refl => rfl
    | symm _ _ _ ih => exact ih.symm
    | trans _ _ _ _ _ ih₁ ih₂ => exact ih₁.trans ih₂
  · intro h
    refine (eqvGen_slack_join l).trans _ _ _ ?_
    rw [h]
    exact (eqvGen_slack_join m).symm

end Fields
