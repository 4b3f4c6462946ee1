import FunctionScript.Proofs.Environment

namespace FunctionScript.Environment

/-!
# Chains of frames

The chain of a live frame starts with the frame and goes on with the chain of its
parent. Its places are live and strictly descend, whatever the links are, and it
depends on nothing but the links that it follows.
-/

theorem chain_of_not_isLive
    {environment : Environment}
    {frame : Nat}
    (dead : ¬environment.isLive frame) :
    environment.chain frame = [] := by
  rw [chain]
  simp [dead]

/-- The chain behind a frame: that of its parent, if the parent stands before it. -/
def outerChain
    (environment : Environment)
    (frame : Nat) :
    List Nat :=
  match environment.parent? frame with
  | some parent =>
      if parent < frame then
        environment.chain parent
      else
        []
  | none => []

/-- The chain of a live frame starts with the frame. -/
theorem chain_of_isLive
    {environment : Environment}
    {frame : Nat}
    (live : environment.isLive frame) :
    environment.chain frame = frame :: environment.outerChain frame := by
  rw [chain, outerChain]
  simp only [live, ↓reduceIte]
  cases environment.parent? frame with
  | none => rfl
  | some parent =>
      by_cases before : parent < frame <;> simp [before]

/-- The chain of a live frame goes on with the chain of a parent that stands before it. -/
theorem chain_of_parent?
    {environment : Environment}
    {frame parent : Nat}
    (live : environment.isLive frame)
    (link : environment.parent? frame = some parent)
    (before : parent < frame) :
    environment.chain frame = frame :: environment.chain parent := by
  rw [chain_of_isLive live, outerChain]
  simp [link, before]

theorem le_of_mem_chain
    {environment : Environment}
    {frame place : Nat}
    (member : place ∈ environment.chain frame) :
    place ≤ frame := by
  induction frame using Nat.strongRecOn with
  | ind frame inductionHypothesis =>
      by_cases live : environment.isLive frame
      · rw [chain_of_isLive live, outerChain] at member
        rcases List.mem_cons.mp member with isFrame | behind
        · exact Nat.le_of_eq isFrame
        · cases link : environment.parent? frame with
          | none => simp [link] at behind
          | some parent =>
              by_cases before : parent < frame
              · have inParent : place ∈ environment.chain parent := by
                  simpa [link, before] using behind
                exact Nat.le_trans
                  (inductionHypothesis parent before inParent)
                  (Nat.le_of_lt before)
              · simp [link, before] at behind
      · simp [chain_of_not_isLive live] at member

theorem lt_of_mem_outerChain
    {environment : Environment}
    {frame place : Nat}
    (member : place ∈ environment.outerChain frame) :
    place < frame := by
  rw [outerChain] at member
  cases link : environment.parent? frame with
  | none => simp [link] at member
  | some parent =>
      by_cases before : parent < frame
      · have inParent : place ∈ environment.chain parent := by
          simpa [link, before] using member
        exact Nat.lt_of_le_of_lt (le_of_mem_chain inParent) before
      · simp [link, before] at member

/-- The chain of a frame goes through the whole chain of every frame on it. -/
theorem mem_chain_trans
    {environment : Environment}
    {frame inner outer : Nat}
    (innerOnChain : inner ∈ environment.chain frame)
    (outerOnChain : outer ∈ environment.chain inner) :
    outer ∈ environment.chain frame := by
  induction frame using Nat.strongRecOn with
  | ind frame inductionHypothesis =>
      by_cases live : environment.isLive frame
      · rw [chain_of_isLive live] at innerOnChain ⊢
        rcases List.mem_cons.mp innerOnChain with isFrame | behind
        · rwa [isFrame, chain_of_isLive live] at outerOnChain
        · rw [outerChain] at behind ⊢
          cases link : environment.parent? frame with
          | none => simp [link] at behind
          | some parent =>
              by_cases before : parent < frame
              · have inParent : inner ∈ environment.chain parent := by
                  simpa [link, before] using behind
                simpa [before] using .inr (inductionHypothesis parent before inParent)
              · simp [link, before] at behind
      · simp [chain_of_not_isLive live] at innerOnChain

/-- The chain of the root is the root alone. -/
theorem chain_root
    {environment : Environment}
    (live : environment.isLive root) :
    environment.chain root = [root] := by
  have nothingBehind : environment.outerChain root = [] :=
    List.eq_nil_iff_forall_not_mem.mpr fun _ member =>
      Nat.not_lt_zero _ (lt_of_mem_outerChain member)
  rw [chain_of_isLive live, nothingBehind]

theorem isLive_of_mem_chain
    {environment : Environment}
    {frame place : Nat}
    (member : place ∈ environment.chain frame) :
    environment.isLive place := by
  by_cases frameLive : environment.isLive frame
  · rw [isLive_iff] at frameLive ⊢
    exact Nat.lt_of_le_of_lt (le_of_mem_chain member) frameLive
  · simp [chain_of_not_isLive frameLive] at member

/-- Each place of a chain stands before the ones that lead to it. -/
theorem descending_chain
    (environment : Environment)
    (frame : Nat) :
    (environment.chain frame).Pairwise (· > ·) := by
  induction frame using Nat.strongRecOn with
  | ind frame inductionHypothesis =>
      by_cases live : environment.isLive frame
      · rw [chain_of_isLive live, List.pairwise_cons]
        refine ⟨fun place => lt_of_mem_outerChain, ?_⟩
        rw [outerChain]
        cases link : environment.parent? frame with
        | none => simp
        | some parent =>
            by_cases before : parent < frame
            · simpa [before] using inductionHypothesis parent before
            · simp [before]
      · simp [chain_of_not_isLive live]

theorem nodup_chain
    (environment : Environment)
    (frame : Nat) :
    (environment.chain frame).Nodup :=
  (environment.descending_chain frame).imp Nat.ne_of_gt

/-- Environments with the same links up to a frame have the same chain there. -/
theorem chain_congr
    {first second : Environment}
    {frame : Nat}
    (live : ∀ place ≤ frame, first.isLive place = second.isLive place)
    (parents : ∀ place ≤ frame, first.parent? place = second.parent? place) :
    first.chain frame = second.chain frame := by
  induction frame using Nat.strongRecOn with
  | ind frame inductionHypothesis =>
      have sameOuter : first.outerChain frame = second.outerChain frame := by
        simp only [outerChain, ← parents frame (Nat.le_refl frame)]
        cases first.parent? frame with
        | none => rfl
        | some parent =>
            by_cases before : parent < frame
            · have upTo : ∀ place ≤ parent, place ≤ frame := fun place below =>
                Nat.le_trans below (Nat.le_of_lt before)
              simpa [before] using
                inductionHypothesis parent before
                  (fun place below => live place (upTo place below))
                  (fun place below => parents place (upTo place below))
            · simp [before]
      by_cases frameLive : first.isLive frame
      · have secondLive : second.isLive frame := by
          rwa [live frame (Nat.le_refl frame)] at frameLive
        rw [chain_of_isLive frameLive, chain_of_isLive secondLive, sameOuter]
      · have secondDead : ¬second.isLive frame := by
          rwa [live frame (Nat.le_refl frame)] at frameLive
        rw [chain_of_not_isLive frameLive, chain_of_not_isLive secondDead]

/-- The chain of a pushed frame goes on with the chain of its parent. -/
theorem chain_push
    {environment : Environment}
    {parent : Nat}
    (live : environment.isLive parent) :
    (environment.push parent).chain environment.depth =
      environment.depth :: environment.chain parent := by
  have before : parent < environment.depth := isLive_iff.mp live
  have pushedLive : (environment.push parent).isLive environment.depth := by
    simp [isLive_iff]
  rw [chain_of_isLive pushedLive, outerChain]
  simp only [parent?_push, ↓reduceIte, before]
  congr 1
  apply chain_congr
  · intro place below
    have placeLive : place < environment.depth := Nat.lt_of_le_of_lt below before
    simp [isLive, placeLive, Nat.lt_succ_of_lt placeLive]
  · intro place below
    have placeLive : place ≠ environment.depth := by omega
    simp [parent?_push, placeLive]

end FunctionScript.Environment
