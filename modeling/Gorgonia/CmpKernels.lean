import Gorgonia.GoValues

/-!
# The four comparison loops of the kernel file

Every function of the generated kernel file is one loop

    retVal = make([]R, len(a))
    for i, v := range a { retVal[i] = <the comparison of v with b[i], or with b> }
    return retVal

in one of four shapes: array–array or array–scalar (`DD`, `DS`), with a
boolean mask or a same-type `1`/`0` indicator as result (`Bools`, `Same`).
`rangeSet` is the loop itself, writing into the preallocated slice;
`ddBools`, `ddSame`, `dsBools` and `dsSame` are the four shapes over any
comparison `op`.  Reading `b[i]` past the end of `b` is Go's index-out-of-range
panic, which the model returns as `none`.

`rangeSet_append` is the loop invariant: the prefix of `retVal` already written
stays, and every later index receives its body's value.  From it, `ddBools_spec`
gives the mask kernels' result on all inputs, `ddSame_eq_map_ddBools` relates the
indicator kernels to the mask kernels, and `dsBools_eq_ddBools` relates the
scalar kernels to the array kernels on the broadcast scalar.
-/

set_option autoImplicit false

namespace Gorgonia

section Loop
variable {α β : Type}

/-- `for i, v := range a { retVal[i] = body i v }` over the elements of `a` from
index `i` on; `none` when a body panics. -/
def rangeSet (body : Nat → α → Option β) : Nat → List α → List β → Option (List β)
  | _, [], retVal => some retVal
  | i, v :: rest, retVal => (body i v).bind fun x => rangeSet body (i + 1) rest (retVal.set i x)

theorem rangeSet_append (body : Nat → α → Option β) (vs : List α) (pre post : List β)
    (fits : post.length = vs.length) :
    rangeSet body pre.length vs (pre ++ post) =
      ((vs.enumFrom pre.length).mapM fun p => body p.1 p.2).map (pre ++ ·) := by
  induction vs generalizing pre post with
  | nil =>
      rw [List.length_nil, List.length_eq_zero] at fits
      subst fits
      rfl
  | cons v vs ih =>
      obtain ⟨x, post, rfl⟩ := List.exists_cons_of_length_eq_add_one fits
      simp only [rangeSet, List.enumFrom_cons, List.mapM_cons]
      cases body pre.length v with
      | none => rfl
      | some y =>
          have next := ih (pre ++ [y]) post (by simpa using fits)
          simp only [List.length_append, List.length_singleton, List.append_assoc,
            List.singleton_append] at next
          simp only [List.set_append_right _ _ (Nat.le_refl _), Nat.sub_self, List.set_cons_zero,
            Option.some_bind, next]
          cases (vs.enumFrom (pre.length + 1)).mapM fun p => body p.1 p.2 <;> simp

theorem rangeSet_fresh (body : Nat → α → Option β) (a : List α) (zero : β) :
    rangeSet body 0 a (List.replicate a.length zero) = (a.enumFrom 0).mapM fun p => body p.1 p.2 := by
  simpa using rangeSet_append body a [] (List.replicate a.length zero) (by simp)

theorem mapM_enumFrom_index {γ : Type} (f : α → γ → β) (b : List γ) (vs : List α) (i : Nat) :
    ((vs.enumFrom i).mapM fun p => b[p.1]?.map (f p.2)) =
      if vs.length ≤ b.length - i then some (List.zipWith f vs (b.drop i)) else none := by
  induction vs generalizing i with
  | nil => simp only [List.length_nil, Nat.zero_le, if_true, List.zipWith_nil_left]; rfl
  | cons v vs ih =>
      simp only [List.enumFrom_cons, List.mapM_cons, ih, List.length_cons]
      by_cases inB : i < b.length
      · rw [List.getElem?_eq_getElem inB, List.drop_eq_getElem_cons inB, List.zipWith_cons_cons]
        by_cases rest : vs.length ≤ b.length - (i + 1)
        · simp [rest, show vs.length + 1 ≤ b.length - i by omega]
        · simp [rest, show ¬ vs.length + 1 ≤ b.length - i by omega]
      · simp [List.getElem?_eq_none (Nat.le_of_not_lt inB), show ¬ vs.length + 1 ≤ b.length - i by omega]

theorem mapM_enumFrom_total (f : α → β) (vs : List α) (i : Nat) :
    ((vs.enumFrom i).mapM fun p => some (f p.2)) = some (vs.map f) := by
  induction vs generalizing i with
  | nil => rfl
  | cons v vs ih => simp only [List.enumFrom_cons, List.mapM_cons, ih]; rfl

end Loop

/-! ## The four kernel shapes -/

section Kernels
variable {α : Type}

/-- `<op>DDBools<K>`: `retVal[i] = v op b[i]`. -/
def ddBools (op : α → α → Bool) (a b : List α) : Option (List Bool) :=
  rangeSet (fun i v => b[i]?.map (op v)) 0 a (List.replicate a.length false)

/-- `<op>DSBools<K>`: `retVal[i] = v op b`. -/
def dsBools (op : α → α → Bool) (a : List α) (b : α) : Option (List Bool) :=
  rangeSet (fun _ v => some (op v b)) 0 a (List.replicate a.length false)

variable [OfNat α 0] [OfNat α 1]

/-- `<op>DDSame<K>`: `if v op b[i] { retVal[i] = 1 } else { retVal[i] = 0 }`. -/
def ddSame (op : α → α → Bool) (a b : List α) : Option (List α) :=
  rangeSet (fun i v => b[i]?.map fun w => if op v w then 1 else 0) 0 a (List.replicate a.length 0)

/-- `<op>DSSame<K>`: `if v op b { retVal[i] = 1 } else { retVal[i] = 0 }`. -/
def dsSame (op : α → α → Bool) (a : List α) (b : α) : Option (List α) :=
  rangeSet (fun _ v => some (if op v b then 1 else 0)) 0 a (List.replicate a.length 0)

end Kernels

/-! ## What the kernels compute -/

section Specs
variable {α : Type}

theorem ddBools_spec (op : α → α → Bool) (a b : List α) :
    ddBools op a b = if a.length ≤ b.length then some (List.zipWith op a b) else none := by
  simpa [ddBools, rangeSet_fresh] using mapM_enumFrom_index op b a 0

theorem dsBools_spec (op : α → α → Bool) (a : List α) (c : α) :
    dsBools op a c = some (a.map fun v => op v c) := by
  simpa [dsBools, rangeSet_fresh] using mapM_enumFrom_total (fun v => op v c) a 0

variable [OfNat α 0] [OfNat α 1]

theorem ddSame_spec (op : α → α → Bool) (a b : List α) :
    ddSame op a b = if a.length ≤ b.length
      then some (List.zipWith (fun v w => if op v w then 1 else 0) a b) else none := by
  simpa [ddSame, rangeSet_fresh] using
    mapM_enumFrom_index (fun v w => if op v w then (1 : α) else 0) b a 0

theorem dsSame_spec (op : α → α → Bool) (a : List α) (c : α) :
    dsSame op a c = some (a.map fun v => if op v c then 1 else 0) := by
  simpa [dsSame, rangeSet_fresh] using
    mapM_enumFrom_total (fun v => if op v c then (1 : α) else 0) a 0

end Specs

/-! ## The kernel laws -/

section Laws
variable {α : Type}

theorem ddBools_result (op : α → α → Bool) (a b : List α) :
    (a.length ≤ b.length → ∃ r, ddBools op a b = some r ∧ r.length = a.length ∧
        ∀ i (inA : i < a.length) (inB : i < b.length), r[i]? = some (op a[i] b[i])) ∧
      (ddBools op a b = none ↔ b.length < a.length) := by
  rw [ddBools_spec]
  refine ⟨fun fits => ⟨_, if_pos fits, by simp [fits], fun i inA inB => by simp [inA, inB]⟩, ?_⟩
  split <;> simp <;> omega

theorem ddSame_eq_map_ddBools [OfNat α 0] [OfNat α 1] (op : α → α → Bool) :
    (∀ a b : List α,
      ddSame op a b = (ddBools op a b).map (List.map fun t => if t then 1 else 0)) ∧
    (∀ (a : List α) (c : α),
      dsSame op a c = (dsBools op a c).map (List.map fun t => if t then 1 else 0)) := by
  refine ⟨fun a b => ?_, fun a c => by simp [dsSame_spec, dsBools_spec]⟩
  rw [ddSame_spec, ddBools_spec]
  split <;> simp [List.map_zipWith]

theorem zipWith_replicate_length {β γ : Type} (f : α → β → γ) (a : List α) (c : β) :
    List.zipWith f a (List.replicate a.length c) = a.map fun v => f v c := by
  induction a with
  | nil => rfl
  | cons v a ih => simp [List.replicate_succ, ih]

theorem dsBools_eq_ddBools_replicate (op : α → α → Bool) (a : List α) (c : α) :
    dsBools op a c = ddBools op a (List.replicate a.length c) ∧ dsBools op a c ≠ none ∧
      ∀ [OfNat α 0] [OfNat α 1],
        dsSame op a c = ddSame op a (List.replicate a.length c) ∧ dsSame op a c ≠ none := by
  refine ⟨?_, by simp [dsBools_spec], ⟨?_, by simp [dsSame_spec]⟩⟩
  · simp [dsBools_spec, ddBools_spec, zipWith_replicate_length]
  · simp [dsSame_spec, ddSame_spec, zipWith_replicate_length]

end Laws

end Gorgonia
