import FrameStream.Shaping.Registry
import Mathlib.Data.Finset.Filter
import Mathlib.Data.Finset.Insert

/-!
What shaping commands do to a host, and which of them a call on the registry runs. On an interface
there can be a root queue with classes and filters under it. A command that works adds one of these
or deletes it; a command that fails changes nothing.
-/

namespace FrameStream

namespace Text

theorem digitChar_inj {first second : Nat} (low : first < 16) (high : second < 16)
    (same : first.digitChar = second.digitChar) : first = second := by
  have distinct : ∀ first second : Fin 16,
      first.val.digitChar = second.val.digitChar → first = second := by decide
  exact congrArg Fin.val (distinct ⟨first, low⟩ ⟨second, high⟩ same)

theorem toDigits_inj {base first second : Nat} (least : 1 < base) (most : base ≤ 16)
    (same : base.toDigits first = base.toDigits second) : first = second := by
  induction first using Nat.strongRecOn generalizing second with
  | ind first ih =>
    have single (number : Nat) : number < base ↔ (base.toDigits number).length ≤ 1 := by
      rw [Nat.length_toDigits_le_iff least Nat.one_pos, Nat.pow_one]
    have alike : first < base ↔ second < base := by rw [single, single, same]
    by_cases low : first < base
    · have high := alike.mp low
      rw [Nat.toDigits_of_lt_base low, Nat.toDigits_of_lt_base high] at same
      exact digitChar_inj (by omega) (by omega) (List.cons.inj same).1
    · have large := mt alike.mpr low
      rw [Nat.toDigits_of_base_le least (Nat.not_lt.mp low),
        Nat.toDigits_of_base_le least (Nat.not_lt.mp large)] at same
      have ⟨upper, last⟩ := List.append_inj' same rfl
      have digit (number : Nat) : number % base < 16 :=
        Nat.lt_of_lt_of_le (Nat.mod_lt _ (by omega)) most
      have remainder := digitChar_inj (digit first) (digit second) (List.cons.inj last).1
      have quotient := ih (first / base) (Nat.div_lt_self (by omega) least) upper
      rw [← Nat.div_add_mod first base, quotient, remainder, Nat.div_add_mod]

end Text

/-- What shaping commands make. Classes and filters are known by what the commands call them. -/
inductive ShapingObject where
  | root (interface : String)
  | rateClass (interface identifier : String)
  | filter (interface priority : String)
  deriving DecidableEq, Repr

namespace ShapingObject

def interface : ShapingObject → String
  | root interface | rateClass interface _ | filter interface _ => interface

/-- Whether an object goes when another is deleted: with a root goes all that is under it. -/
def GoesWith (object deleted : ShapingObject) : Prop :=
  object = deleted ∨ deleted = root object.interface

instance (object deleted : ShapingObject) : Decidable (object.GoesWith deleted) :=
  inferInstanceAs (Decidable (_ ∨ _))

end ShapingObject

namespace ShapingCommand

def priority (port : UInt16) : String := toString port.toNat

theorem classId_inj {first second : UInt16} : classId first = classId second ↔ first = second := by
  refine ⟨fun same => ?_, congrArg classId⟩
  have digits := String.ofList_injective ((String.append_right_inj _).mp same)
  exact UInt16.toNat_inj.mp (Text.toDigits_inj (by decide) (by decide) digits)

theorem priority_inj {first second : UInt16} :
    priority first = priority second ↔ first = second := by
  refine ⟨fun same => ?_, congrArg priority⟩
  rw [priority, priority, Nat.toString_eq_ofList_toDigits, Nat.toString_eq_ofList_toDigits] at same
  have digits := String.ofList_injective same
  exact UInt16.toNat_inj.mp (Text.toDigits_inj (by decide) (by decide) digits)

/-- The object that a command adds or deletes. -/
def target : ShapingCommand → ShapingObject
  | addRoot interface | deleteRoot interface => .root interface
  | addClass interface port _ | deleteClass interface port => .rateClass interface (classId port)
  | addFilter interface port | deleteFilter interface port => .filter interface (priority port)

def isDeletion : ShapingCommand → Bool
  | addRoot _ | addClass .. | addFilter .. => false
  | deleteRoot _ | deleteClass .. | deleteFilter .. => true

end ShapingCommand

structure ShapingAttempt where
  command : ShapingCommand
  works : Bool
  deriving DecidableEq, Repr

namespace ShapingAttempt

def Adds (attempt : ShapingAttempt) (object : ShapingObject) : Prop :=
  attempt.works = true ∧ attempt.command.isDeletion = false ∧ object = attempt.command.target

def Deletes (attempt : ShapingAttempt) (object : ShapingObject) : Prop :=
  attempt.works = true ∧ attempt.command.isDeletion = true ∧
    object.GoesWith attempt.command.target

instance (attempt : ShapingAttempt) (object : ShapingObject) : Decidable (attempt.Adds object) :=
  inferInstanceAs (Decidable (_ ∧ _))

instance (attempt : ShapingAttempt) (object : ShapingObject) :
    Decidable (attempt.Deletes object) :=
  inferInstanceAs (Decidable (_ ∧ _ ∧ _))

end ShapingAttempt

def Shaper.works (shaper : Shaper) (command : ShapingCommand) : Bool :=
  (shaper.failure? command).isNone

def Shaper.attempts (shaper : Shaper) (commands : List ShapingCommand) : List ShapingAttempt :=
  commands.map fun command => ⟨command, shaper.works command⟩

/-- The objects that exist on a host. -/
abbrev Kernel := Finset ShapingObject

namespace Kernel

def after (kernel : Kernel) (attempt : ShapingAttempt) : Kernel :=
  if attempt.works then
    if attempt.command.isDeletion then kernel.filter (¬ ·.GoesWith attempt.command.target)
    else insert attempt.command.target kernel
  else kernel

@[simp]
theorem mem_after {kernel : Kernel} {attempt : ShapingAttempt} {object : ShapingObject} :
    object ∈ kernel.after attempt ↔
      attempt.Adds object ∨ object ∈ kernel ∧ ¬ attempt.Deletes object := by
  obtain ⟨command, works⟩ := attempt
  cases works with
  | false => simp [after, ShapingAttempt.Adds, ShapingAttempt.Deletes]
  | true =>
    cases deletes : command.isDeletion <;>
      simp [after, ShapingAttempt.Adds, ShapingAttempt.Deletes, deletes]

def afterAll (kernel : Kernel) (attempts : List ShapingAttempt) : Kernel :=
  attempts.foldl after kernel

/-- Whether a command makes sense: it adds what is not there, under a root that is there, or deletes
what is there and has nothing under it. -/
def Admits (kernel : Kernel) (command : ShapingCommand) : Prop :=
  if command.isDeletion then
    command.target ∈ kernel ∧
      ∀ object ∈ kernel, object.GoesWith command.target → object = command.target
  else
    command.target ∉ kernel ∧
      (command.target = .root command.interface ∨ .root command.interface ∈ kernel)

/-- Whether every command makes sense where it is run. -/
def AdmitsAll (kernel : Kernel) : List ShapingAttempt → Prop
  | [] => True
  | attempt :: attempts =>
    kernel.Admits attempt.command ∧ (kernel.after attempt).AdmitsAll attempts

end Kernel

end FrameStream
