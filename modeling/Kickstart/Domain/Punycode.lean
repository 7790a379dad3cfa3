/-
# Kickstart.Domain.Punycode -- any characters written in ASCII

A text is written in letters, digits and hyphens: first its ASCII characters, then, for
each other character in the order of code points, how many steps lie between it and the
one before it.  A step goes on by one place in the text, and from the last place to the
first place of the next code point.  Steps are numbers of variable length with 36
digits, the lowest first; a digit below its place's threshold is the last.  Thresholds
follow the size of the steps so far (`Bias`).
-/
import Kickstart.Text.Blank

namespace Kickstart.Domain.Punycode

set_option autoImplicit false

/-! ## Digits -/

/-- The character of a digit: letters, then decimal digits. -/
def digit (n : Nat) : Char :=
  if n < 26 then Char.ofNat ('a'.toNat + n) else Char.ofNat ('0'.toNat + (n - 26))

/-- The value of a digit. -/
def digitValue? (c : Char) : Option Nat :=
  if 'a' ≤ c ∧ c ≤ 'z' then some (c.toNat - 'a'.toNat)
  else if 'A' ≤ c ∧ c ≤ 'Z' then some (c.toNat - 'A'.toNat)
  else if '0' ≤ c ∧ c ≤ '9' then some (c.toNat - '0'.toNat + 26)
  else none

/-- The threshold of a place, between 1 and 26; places count in steps of 36. -/
def threshold (bias place : Nat) : Nat :=
  if place ≤ bias then 1 else if bias + 26 ≤ place then 26 else place - bias

theorem threshold_bounds (bias place : Nat) :
    1 ≤ threshold bias place ∧ threshold bias place ≤ 26 := by
  unfold threshold
  split
  · omega
  · split <;> omega

/-! ## The bias -/

/-- How often a number can be divided before it is small, in places, and what is left. -/
def shrink (n place : Nat) : Nat × Nat :=
  if 455 < n then shrink (n / 35) (place + 36) else (n, place)
termination_by n
decreasing_by exact Nat.div_lt_self (by omega) (by omega)

/-- The bias after some steps, with so many characters in the text. -/
def nextBias (steps size : Nat) (isFirst : Bool) : Nat :=
  let scaled := if isFirst then steps / 700 else steps / 2
  let (n, place) := shrink (scaled + scaled / size) 0
  place + 36 * n / (n + 38)

/-- The bias at the start. -/
def firstBias : Nat := 72

/-! ## Writing -/

/-- The digits of a number from a place on. -/
def writeNumber (bias place n : Nat) : Text :=
  let t := threshold bias place
  if n < t then [digit n]
  else digit (t + (n - t) % (36 - t)) :: writeNumber bias (place + 36) ((n - t) / (36 - t))
termination_by n
decreasing_by
  have bounds := threshold_bounds bias place
  have le := Nat.div_le_self (n - threshold bias place) (36 - threshold bias place)
  omega

/-- A writer: what it wrote, the steps since the last character, the bias and how many
characters are done. -/
structure Writer where
  written : Text
  steps : Nat
  bias : Nat
  done : Nat

/-- Passes a place while the characters with code point `n` are written. -/
def Writer.pass (basics n : Nat) (w : Writer) (c : Char) : Writer :=
  if c.toNat < n then { w with steps := w.steps + 1 }
  else if c.toNat = n then
    ⟨w.written ++ writeNumber w.bias 36 w.steps, 0,
      nextBias w.steps (w.done + 1) (w.done = basics), w.done + 1⟩
  else w

/-- Writes the characters with the given code points, which come in order; `next` is the
first that has not been looked at. -/
def Writer.run (t : Text) (basics : Nat) (w : Writer) (next : Nat) : List Nat → Writer
  | [] => w
  | n :: rest =>
    let w := { w with steps := w.steps + (n - next) * (w.done + 1) }
    let w := t.foldl (Writer.pass basics n) w
    Writer.run t basics { w with steps := w.steps + 1 } (n + 1) rest

/-- A number in an ascending list. -/
def insertOnce (n : Nat) : List Nat → List Nat
  | [] => [n]
  | m :: rest =>
    if n < m then n :: m :: rest
    else if n = m then m :: rest
    else m :: insertOnce n rest

/-- The text in ASCII. -/
def encode (t : Text) : Text :=
  let basics := t.filter fun c => c.toNat < 0x80
  let others := (t.filter fun c => 0x80 ≤ c.toNat).foldl (fun l c => insertOnce c.toNat l) []
  let w := Writer.run t basics.length ⟨[], 0, firstBias, basics.length⟩ 0x80 others
  basics ++ (if basics = [] then [] else ['-']) ++ w.written

/-! ## Reading -/

/-- Reads a number from a place on, where digits weigh `weight` each, and adds it. -/
def readNumber? (bias : Nat) : Nat → Nat → Nat → Text → Option (Nat × Text)
  | _, _, _, [] => none
  | place, weight, sum, c :: rest =>
    match digitValue? c with
    | none => none
    | some d =>
      let t := threshold bias place
      if d < t then some (sum + d * weight, rest)
      else readNumber? bias (place + 36) (weight * (36 - t)) (sum + d * weight) rest

theorem readNumber?_shorter {bias place weight sum n : Nat} {t rest : Text}
    (h : readNumber? bias place weight sum t = some (n, rest)) : rest.length < t.length := by
  induction t generalizing place weight sum with
  | nil => simp [readNumber?] at h
  | cons c more ih =>
    simp only [readNumber?] at h
    split at h
    · simp at h
    · split at h
      · simp only [Option.some.injEq, Prod.mk.injEq] at h
        simp [h.2]
      · have := ih h
        simp only [List.length_cons]
        omega

/-- Where a code point can be a character. -/
def isScalar (n : Nat) : Bool := n < 0xD800 || (0xE000 ≤ n && n < 0x110000)

/-- Reads steps one after the other, from the place and code point that the last one led
to. -/
def readSteps? (bias code place : Nat) (t : Text) (rest : Text) : Option Text :=
  match rest with
  | [] => some t
  | c :: more =>
    match _h : readNumber? bias 36 1 place (c :: more) with
    | none => none
    | some (sum, rest) =>
      let size := t.length + 1
      let code := code + sum / size
      let index := sum % size
      if isScalar code then
        readSteps? (nextBias (sum - place) size (place = 0)) code (index + 1)
          (t.take index ++ Char.ofNat code :: t.drop index) rest
      else none
termination_by rest.length
decreasing_by exact readNumber?_shorter _h

/-- The text that is written in ASCII. -/
def decode? (t : Text) : Option Text :=
  let after := (t.reverse.takeWhile (· ≠ '-')).reverse
  let basics := t.take (t.length - after.length - 1)
  let steps := if basics = [] then t else after
  if basics.all fun c => c.toNat < 0x80 then readSteps? firstBias 0x80 0 basics steps else none

end Kickstart.Domain.Punycode
