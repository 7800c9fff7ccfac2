import QueryText.Error
import QueryText.Render.Context

/-!
# QueryText — bindings

The values for the arguments of a rendered statement: one for each tag, and a queue for the
arguments without a tag. Binding lines them up with the argument slots.
-/

namespace QueryText

/-- A value for an argument. -/
inductive Param where
  | integer (value : Int)
  | boolean (value : Bool)
  | text (value : String)
  | null
  deriving DecidableEq, Repr

/-- A description of a parameter for people. -/
def Param.describe (param : Param) : String :=
  let inner :=
    match param with
    | integer value => toString value
    | boolean value => if value then "true" else "false"
    | text value => "\"" ++ value ++ "\""
    | null => "None"
  "Param(" ++ inner ++ ")"

/-- Values of arguments. -/
structure Bindings (α : Type) where
  /-- The value of each tag. -/
  tagged : List (String × α) := []
  /-- The values for arguments without a tag, first one first. -/
  queue : List α := []

namespace Bindings

variable {α : Type}

/-- Puts a value under a tag: in place if the tag is there, at the end if not. -/
def put (tag : String) (value : α) : List (String × α) → List (String × α)
  | [] => [(tag, value)]
  | (name, old) :: entries =>
    if name = tag then (name, value) :: entries else (name, old) :: put tag value entries

/-- Gives a tag its value; the last value counts. -/
def set (bindings : Bindings α) (tag : String) (value : α) : Bindings α :=
  { bindings with tagged := put tag value bindings.tagged }

def push (bindings : Bindings α) (value : α) : Bindings α :=
  { bindings with queue := bindings.queue ++ [value] }

def get? (bindings : Bindings α) (tag : String) : Option α :=
  bindings.tagged.lookup tag

/-- A value is found under its tag, and other tags keep theirs. -/
theorem lookup_put (tag key : String) (value : α) (entries : List (String × α)) :
    (put tag value entries).lookup key =
      if key = tag then some value else entries.lookup key := by
  induction entries with
  | nil =>
    by_cases h : key = tag
    · simp [put, h]
    · simp [put, List.lookup_cons, beq_eq_false_iff_ne.mpr h, h]
  | cons entry entries ih =>
    obtain ⟨name, old⟩ := entry
    by_cases hName : name = tag
    · subst hName
      by_cases hKey : key = name
      · simp [put, hKey]
      · simp [put, List.lookup_cons, beq_eq_false_iff_ne.mpr hKey, hKey]
    · by_cases hKey : key = name
      · simp [put, hName, hKey]
      · simp [put, List.lookup_cons, hName, ih, beq_eq_false_iff_ne.mpr hKey]

/-- A tag that was set has its last value; other tags keep theirs. -/
theorem get?_set (bindings : Bindings α) (tag key : String) (value : α) :
    (bindings.set tag value).get? key = if key = tag then some value else bindings.get? key :=
  lookup_put tag key value bindings.tagged

def size (bindings : Bindings α) : Nat :=
  bindings.tagged.length + bindings.queue.length

def isEmpty (bindings : Bindings α) : Bool :=
  bindings.tagged.isEmpty && bindings.queue.isEmpty

/-- The values of the slots from a number on, in order. A slot without a tag takes the first
value that the queue still has. -/
def fill (bindings : Bindings α) (number : Nat) (queue : List α) :
    List String → Except Error (List α)
  | [] => .ok []
  | tag :: tags =>
    if tag.isEmpty then
      match queue with
      | [] => .error (.missingArgument (.anonymous number))
      | value :: rest => (bindings.fill (number + 1) rest tags).map (value :: ·)
    else
      match bindings.get? tag with
      | none => .error (.missingArgument (.tagged tag))
      | some value => (bindings.fill (number + 1) queue tags).map (value :: ·)

end Bindings

/-- The value of each argument slot, in the order of the slots. -/
def Rendering.bind {α : Type} (rendering : Rendering) (bindings : Bindings α) :
    Except Error (List α) :=
  bindings.fill 1 bindings.queue rendering.arguments

end QueryText
