import Mathlib.Data.List.DropRight
import Mathlib.Tactic.Common

/-! The text operations of the host language that the supervisor relies on.
Texts are sequences of code points and compare by code point, as they do there. -/

namespace WebSupervisor

/-- The code points that a plain `strip()` removes. -/
def isSpace (c : Char) : Bool :=
  let n := c.toNat
  (0x09 ≤ n && n ≤ 0x0D) || (0x1C ≤ n && n ≤ 0x20) || n == 0x85 || n == 0xA0 || n == 0x1680 ||
    (0x2000 ≤ n && n ≤ 0x200A) || n == 0x2028 || n == 0x2029 || n == 0x202F || n == 0x205F || n == 0x3000

def strip (text : String) : String :=
  String.ofList ((text.toList.dropWhile isSpace).reverse.dropWhile isSpace).reverse

private theorem dropWhile_front {α : Type} {test : α → Bool} {front : List α} (rest : List α)
    (first : ∀ c ∈ (front ++ rest).head?, test c = false) : front.dropWhile test = front := by
  cases front with
  | nil => rfl
  | cons c front =>
    have stays : test c = false := first c rfl
    simp [stays]

theorem strip_strip (text : String) : strip (strip text) = strip text := by
  unfold strip
  rw [String.toList_ofList]
  set body := text.toList.dropWhile isSpace with bodyIs
  set tail := body.reverse.dropWhile isSpace with tailIs
  have split : tail.reverse ++ (body.reverse.takeWhile isSpace).reverse = body := by
    rw [← List.reverse_append, tailIs, List.takeWhile_append_dropWhile, List.reverse_reverse]
  have front : tail.reverse.dropWhile isSpace = tail.reverse := by
    refine dropWhile_front (body.reverse.takeWhile isSpace).reverse (fun c first => ?_)
    rw [split, Option.mem_def] at first
    have known := List.head?_dropWhile_not isSpace text.toList
    rw [← bodyIs, first] at known
    exact known
  rw [front, List.reverse_reverse, tailIs, List.dropWhile_idempotent]

def rstrip (text : String) : String :=
  String.ofList (text.toList.reverse.dropWhile isSpace).reverse

/-- `text.rstrip("/")`. -/
def rstripSlash (text : String) : String :=
  String.ofList (text.toList.reverse.dropWhile (· == '/')).reverse

/-- `text[:count]`. -/
def clip (count : Nat) (text : String) : String := String.ofList (text.toList.take count)

/-- `first or second` on optional texts. -/
def orText (first second : Option String) : Option String :=
  if first.getD "" = "" then second else first

/-- One character of a quoted text. Every code point above ASCII is taken as printable. -/
def escaped (quote c : Char) : List Char :=
  let digit (n : Nat) : Char := Nat.digitChar (n % 16)
  if c = quote ∨ c = '\\' then ['\\', c]
  else if c = '\t' then ['\\', 't']
  else if c = '\n' then ['\\', 'n']
  else if c = '\r' then ['\\', 'r']
  else if c.toNat < 0x20 ∨ c.toNat = 0x7F then ['\\', 'x', digit (c.toNat / 16), digit c.toNat]
  else [c]

/-- `repr` of a text: in single quotes, or in double ones when only the single one is
a part of it. -/
def quoted (text : String) : String :=
  let single := Char.ofNat 0x27
  let double := Char.ofNat 0x22
  let quote := if single ∈ text.toList ∧ double ∉ text.toList then double else single
  String.ofList (quote :: text.toList.flatMap (escaped quote) ++ [quote])

end WebSupervisor
