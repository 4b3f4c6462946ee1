import FunctionScript.Proofs.Shape

namespace FunctionScript.Environment

/-!
# Well-formed environments

Whether an environment is well-formed can be seen from its depth and its links. So
every change of variables or functions keeps it well-formed, and so does adding a
frame under a live one and dropping any frame with those behind it. From a live frame
of a well-formed environment, parent after parent leads down to the root.
-/

/-- What makes an environment well-formed can be seen from its depth and its links. -/
theorem wellFormed_iff
    {environment : Environment} :
    environment.WellFormed ↔
      environment.isLive root ∧
        environment.parent? root = none ∧
        ∀ place,
          place ≠ root →
          environment.isLive place →
          ∃ parent, environment.parent? place = some parent ∧ parent < place := by
  constructor
  · intro wellFormed
    refine ⟨isLive_iff.mpr wellFormed.root_live, ?_, ?_⟩
    · cases found : environment.frames[root]? with
      | none => simp [parent?, found]
      | some frame => simp [parent?, found, wellFormed.root_parent frame found]
    · intro place notRoot live
      have inBounds : place < environment.frames.size := isLive_iff.mp live
      have found := Array.getElem?_eq_getElem inBounds
      obtain ⟨parent, isParent, before⟩ :=
        wellFormed.parent_before place _ notRoot found
      exact ⟨parent, by simp [parent?, found, isParent], before⟩
  · rintro ⟨rootLive, rootParent, parents⟩
    refine ⟨isLive_iff.mp rootLive, ?_, ?_⟩
    · intro frame found
      simpa [parent?, found] using rootParent
    · intro place frame notRoot found
      have live : environment.isLive place :=
        isLive_iff.mpr (Array.getElem?_eq_some_iff.mp found).1
      simpa [parent?, found] using parents place notRoot live

namespace WellFormed

theorem initial :
    Environment.initial.WellFormed := by
  refine wellFormed_iff.mpr ⟨rfl, rfl, ?_⟩
  intro place notRoot live
  have isRoot : place < 1 := isLive_iff.mp live
  exact absurd (Nat.lt_one_iff.mp isRoot) notRoot

variable
  {environment other : Environment}
  {frame : Nat}

/-- An environment with the same links as a well-formed one is well-formed. -/
theorem of_sameLinks
    (wellFormed : environment.WellFormed)
    (depth : other.depth = environment.depth)
    (parents : ∀ place, other.parent? place = environment.parent? place) :
    other.WellFormed := by
  rw [wellFormed_iff] at wellFormed ⊢
  simpa only [isLive, depth, parents] using wellFormed

/-- The shape of an environment tells whether it is well-formed. -/
theorem of_sameShape
    (wellFormed : environment.WellFormed)
    (same : SameShape other environment) :
    other.WellFormed :=
  wellFormed.of_sameLinks same.depth same.parents

/-- A fresh frame under a live caller leaves an environment well-formed. -/
theorem extend
    (wellFormed : environment.WellFormed)
    (live : environment.isLive frame)
    (values : List (String × String)) :
    (environment.extend frame values).WellFormed := by
  have before : frame < environment.depth := isLive_iff.mp live
  obtain ⟨rootLive, rootParent, parents⟩ := wellFormed_iff.mp wellFormed
  have rootBefore : root < environment.depth := isLive_iff.mp rootLive
  refine wellFormed_iff.mpr ⟨?_, ?_, ?_⟩
  · rw [isLive_iff, depth_extend]
    exact Nat.lt_succ_of_lt rootBefore
  · rw [parent?_extend, if_neg (Nat.ne_of_lt rootBefore)]
    exact rootParent
  · intro place notRoot placeLive
    rw [parent?_extend]
    by_cases fresh : place = environment.depth
    · exact ⟨frame, if_pos fresh, fresh ▸ before⟩
    · rw [isLive_iff, depth_extend] at placeLive
      rw [if_neg fresh]
      exact parents place notRoot (isLive_iff.mpr (by omega))

theorem push
    (wellFormed : environment.WellFormed)
    (live : environment.isLive frame) :
    (environment.push frame).WellFormed :=
  wellFormed.extend live []

/-- Dropping a frame, live or not, leaves an environment well-formed. -/
theorem pop
    (wellFormed : environment.WellFormed)
    (frame : Nat) :
    (environment.pop frame).WellFormed := by
  by_cases isRoot : frame = root
  · simpa [Environment.pop, isRoot] using wellFormed
  rcases Nat.le_total environment.depth frame with behind | below
  · rwa [pop_of_depth_le behind]
  obtain ⟨_, rootParent, parents⟩ := wellFormed_iff.mp wellFormed
  have rootBefore : root < frame := Nat.pos_of_ne_zero isRoot
  refine wellFormed_iff.mpr ⟨?_, ?_, ?_⟩
  · rwa [isLive_iff, depth_pop isRoot below]
  · rwa [parent?_pop isRoot rootBefore]
  · intro place notRoot live
    rw [isLive_iff, depth_pop isRoot below] at live
    rw [parent?_pop isRoot live]
    exact parents place notRoot (isLive_iff.mpr (Nat.lt_of_lt_of_le live below))

theorem overlayRoot
    (wellFormed : environment.WellFormed)
    (functions : Table Function)
    (values : Table String) :
    (environment.overlayRoot functions values).WellFormed :=
  wellFormed.of_sameLinks (by simp) (by simp)

theorem changeVariables
    (wellFormed : environment.WellFormed)
    (frame : Nat)
    (change : Table String → Table String) :
    (environment.changeVariables frame change).WellFormed :=
  wellFormed.of_sameShape (sameShape_changeVariables environment frame change)

theorem defineVariable
    (wellFormed : environment.WellFormed)
    (frame : Nat)
    (name value : String) :
    (environment.defineVariable frame name value).WellFormed := by
  rw [defineVariable_eq_changeVariables]
  exact wellFormed.changeVariables frame _

theorem eraseVariable
    (wellFormed : environment.WellFormed)
    (frame : Nat)
    (name : String) :
    (environment.eraseVariable frame name).WellFormed := by
  rw [eraseVariable_eq_changeVariables]
  exact wellFormed.changeVariables frame _

theorem defineFunction
    (wellFormed : environment.WellFormed)
    (frame : Nat)
    (name : String)
    (function : Function) :
    (environment.defineFunction frame name function).WellFormed :=
  wellFormed.of_sameLinks (depth_modifyFrame _ _ _) fun _ =>
    parent?_modifyFrame _ _ fun _ => rfl

/--
Induction from a live frame along parent links: what holds of the root, and of every
frame whose parent it holds of, holds of every live frame.
-/
@[elab_as_elim]
theorem parent_induction
    (wellFormed : environment.WellFormed)
    {motive : (frame : Nat) → environment.isLive frame → Prop}
    (atRoot : ∀ live, motive root live)
    (atChild :
      ∀ frame parent live parentLive,
        environment.parent? frame = some parent →
          parent < frame →
            motive parent parentLive →
              motive frame live)
    (frame : Nat)
    (live : environment.isLive frame) :
    motive frame live := by
  obtain ⟨_, _, parents⟩ := wellFormed_iff.mp wellFormed
  induction frame using Nat.strongRecOn with
  | ind frame inductionHypothesis =>
      by_cases isRoot : frame = root
      · subst isRoot
        exact atRoot live
      · obtain ⟨parent, link, before⟩ := parents frame isRoot live
        have parentLive : environment.isLive parent :=
          isLive_iff.mpr (Nat.lt_trans before (isLive_iff.mp live))
        exact atChild frame parent live parentLive link before
          (inductionHypothesis parent before parentLive)

/-- The chain of a live frame in a well-formed environment ends at the root. -/
theorem getLast?_chain
    (wellFormed : environment.WellFormed)
    (live : environment.isLive frame) :
    (environment.chain frame).getLast? = some root := by
  induction frame, live using wellFormed.parent_induction with
  | atRoot live => simp [chain_root live]
  | atChild frame parent live _ link before parentLast =>
      rw [chain_of_parent? live link before, List.getLast?_cons, parentLast]
      rfl

end WellFormed

end FunctionScript.Environment
