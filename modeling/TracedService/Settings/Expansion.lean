import TracedService.Environment
import TracedService.Text.Ascii
import TracedService.Text.Occurs

/-! Variables in the text of a settings file. A placeholder is `$`, a brace, an upper-case name, and
a closing brace, with a default behind `:-` if one is wanted. Every placeholder is replaced once,
from left to right; what is put in is not looked at again. -/

namespace TracedService

structure Placeholder where
  name : List Char
  default : Option (List Char) := none
  deriving DecidableEq, Repr

namespace Placeholder

def isNameStart (c : Char) : Bool :=
  Text.isCapital c || c == '_'

def isNameChar (c : Char) : Bool :=
  isNameStart c || Text.isDigit c

def text (p : Placeholder) : List Char :=
  '$' :: '\x7b' :: p.name ++
    (match p.default with
      | some d => ':' :: '-' :: d
      | none => []) ++ ['\x7d']

def read? (s : List Char) : Option (Placeholder × List Char) :=
  match s with
  | '$' :: '\x7b' :: c :: r =>
    if isNameStart c then
      let name := c :: r.takeWhile isNameChar
      match r.dropWhile isNameChar with
      | '\x7d' :: rest => some (⟨name, none⟩, rest)
      | ':' :: '-' :: r =>
        let default := r.takeWhile (· != '\x7d')
        match r.dropWhile (· != '\x7d') with
        | _ :: rest => some (⟨name, some default⟩, rest)
        | [] => none
      | _ => none
    else none
  | _ => none

/-- The variable's value if it is set, else the default, else nothing. -/
def value (env : Environment) (p : Placeholder) : List Char :=
  match env.text? (String.ofList p.name) with
  | some v => v.toList
  | none => p.default.getD []

theorem length_read?_lt {s : List Char} {p : Placeholder} {rest : List Char}
    (h : read? s = some (p, rest)) : rest.length < s.length := by
  unfold read? at h
  split at h
  · rename_i c r
    split at h
    · have hr : (r.dropWhile isNameChar).length ≤ r.length := (List.dropWhile_sublist _).length_le
      split at h
      · rename_i hd
        obtain ⟨-, rfl⟩ : _ ∧ _ = rest := by simpa using h
        rw [hd] at hr
        simp only [List.length_cons] at hr ⊢
        omega
      · rename_i t hd
        have ht : (t.dropWhile (· != '\x7d')).length ≤ t.length :=
          (List.dropWhile_sublist _).length_le
        rw [hd] at hr
        split at h
        · rename_i he
          obtain ⟨-, rfl⟩ : _ ∧ _ = rest := by simpa using h
          rw [he] at ht
          simp only [List.length_cons] at hr ht ⊢
          omega
        · simp at h
      · simp at h
    · simp at h
  · simp at h

end Placeholder

/-- The text with every placeholder replaced. -/
def Settings.expand (env : Environment) (s : List Char) : List Char :=
  match _h : Placeholder.read? s with
  | some (p, rest) => p.value env ++ expand env rest
  | none =>
    match s with
    | [] => []
    | c :: r => c :: expand env r
termination_by s.length
decreasing_by
  · exact Placeholder.length_read?_lt _h
  · simp

end TracedService
