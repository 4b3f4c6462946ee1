import FunctionScript.Function

namespace FunctionScript

/-!
# Frames

Variables and functions are bound in frames. A frame is made for each call, its
parent is the caller's frame, and it goes away when the call returns; the root
frame stays. Frames stand in one array and name their parent by its place, which
is always an earlier one, so going from parent to parent ends at the root.
-/

/-- The bindings of one call, and the place of the frame it was called from. -/
structure Frame where
  parent : Option Nat
  «variables» : Table String
  functions : Table Function

def Frame.empty
    (parent : Option Nat) :
    Frame where
  parent := parent
  «variables» := ∅
  functions := ∅

/-- All live frames; the root stands first. -/
structure Environment where
  frames : Array Frame

namespace Environment

def root : Nat :=
  0

def initial : Environment where
  frames := #[Frame.empty none]

instance : Inhabited Environment :=
  ⟨initial⟩

def depth
    (environment : Environment) :
    Nat :=
  environment.frames.size

/-- Whether a live frame stands at the place. -/
def isLive
    (environment : Environment)
    (frame : Nat) :
    Bool :=
  frame < environment.depth

/-- The root has no parent, and the parent of any other frame stands before it. -/
structure WellFormed
    (environment : Environment) :
    Prop where
  root_live : 0 < environment.depth
  root_parent :
    ∀ frame, environment.frames[root]? = some frame → frame.parent = none
  parent_before :
    ∀ place frame,
      place ≠ root →
      environment.frames[place]? = some frame →
      ∃ parent, frame.parent = some parent ∧ parent < place

def parent?
    (environment : Environment)
    (frame : Nat) :
    Option Nat :=
  environment.frames[frame]?.bind Frame.parent

/--
The places from a live frame up to the root, nearest first.

A link that does not lead to an earlier place is not followed; in a well-formed
environment there is none.
-/
def chain
    (environment : Environment)
    (frame : Nat) :
    List Nat :=
  if environment.isLive frame then
    match environment.parent? frame with
    | some parent =>
        if parent < frame then
          frame :: environment.chain parent
        else
          [frame]
    | none => [frame]
  else
    []
termination_by frame

/-- Add an empty frame with the given parent behind all others. -/
def push
    (environment : Environment)
    (parent : Nat) :
    Environment where
  frames := environment.frames.push (Frame.empty (some parent))

/-- Drop a frame and all frames behind it; the root is never dropped. -/
def pop
    (environment : Environment)
    (frame : Nat) :
    Environment :=
  if frame = root then
    environment
  else
    { frames := environment.frames.shrink frame }

/-- Change the frame at a place, if one stands there. -/
def modifyFrame
    (environment : Environment)
    (frame : Nat)
    (change : Frame → Frame) :
    Environment where
  frames := environment.frames.modify frame change

end Environment

end FunctionScript
