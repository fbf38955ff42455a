import SorobanGate.Library.Json
import Mathlib.Tactic.IntervalCases

/-!
# Compact JSON text

`Json.render` prints a tree without white space, strings with the shortest
escapes.  Printing is injective: the characters written for a value, followed by
anything that cannot continue a number, determine both the value and what
follows.
-/

namespace Json

/-- Lower-case hexadecimal digits. -/
def hexDigit (value : Nat) : Char :=
  if value < 10 then Char.ofNat (48 + value) else Char.ofNat (87 + value)

/-- The characters that have an escape of their own. -/
def shortEscape : Char → Option Char
  | '"' => some '"'
  | '\\' => some '\\'
  | '\x08' => some 'b'
  | '\x0c' => some 'f'
  | '\n' => some 'n'
  | '\r' => some 'r'
  | '\t' => some 't'
  | _ => none

/-- One character inside a string: a short escape, a numeric escape for the
other control characters, or the character itself. -/
def escape (char : Char) : List Char :=
  match shortEscape char with
  | some short => ['\\', short]
  | none =>
      if char.toNat < 32 then
        ['\\', 'u', '0', '0', hexDigit (char.toNat / 16), hexDigit (char.toNat % 16)]
      else [char]

/-- A quoted string. -/
def renderString (text : String) : List Char :=
  '"' :: (text.toList.flatMap escape ++ ['"'])

mutual
/-- Compact text of a tree. -/
def render : Json → List Char
  | .null => ['n', 'u', 'l', 'l']
  | .bool true => ['t', 'r', 'u', 'e']
  | .bool false => ['f', 'a', 'l', 's', 'e']
  | .number value => value.text
  | .string value => renderString value
  | .array [] => ['[', ']']
  | .array (item :: rest) => '[' :: (render item ++ renderItems rest)
  | .object [] => ['\x7b', '\x7d']
  | .object ((name, value) :: rest) =>
      '\x7b' :: (renderString name ++ ':' :: (render value ++ renderMembers rest))

/-- The items after the first, with the closing bracket. -/
def renderItems : List Json → List Char
  | [] => [']']
  | item :: rest => ',' :: (render item ++ renderItems rest)

/-- The members after the first, with the closing brace. -/
def renderMembers : List (String × Json) → List Char
  | [] => ['\x7d']
  | (name, value) :: rest =>
      ',' :: (renderString name ++ ':' :: (render value ++ renderMembers rest))
end

/-- The UTF-8 bytes of the compact text. -/
def toBytes (tree : Json) : List UInt8 :=
  (String.ofList tree.render).toByteArray.data.toList

/-! ## Strings -/

/-- Read back one character of a string body. -/
def unescape : List Char → Option (Char × List Char)
  | '\\' :: 'u' :: '0' :: '0' :: high :: low :: rest =>
      let digit (char : Char) := if char.isDigit then char.toNat - 48 else char.toNat - 87
      some (Char.ofNat (16 * digit high + digit low), rest)
  | '\\' :: '"' :: rest => some ('"', rest)
  | '\\' :: '\\' :: rest => some ('\\', rest)
  | '\\' :: 'b' :: rest => some ('\x08', rest)
  | '\\' :: 'f' :: rest => some ('\x0c', rest)
  | '\\' :: 'n' :: rest => some ('\n', rest)
  | '\\' :: 'r' :: rest => some ('\r', rest)
  | '\\' :: 't' :: rest => some ('\t', rest)
  | '"' :: _ => none
  | char :: rest => some (char, rest)
  | [] => none

theorem unescape_control {code : Nat} (control : code < 32) (rest : List Char) :
    unescape (escape (Char.ofNat code) ++ rest) = some (Char.ofNat code, rest) := by
  interval_cases code <;> rfl

theorem unescape_escape (char : Char) (rest : List Char) :
    unescape (escape char ++ rest) = some (char, rest) := by
  by_cases control : char.toNat < 32
  · have readBack := unescape_control control rest
    rwa [Char.ofNat_toNat] at readBack
  · by_cases quote : char = '"'
    · subst quote
      rfl
    · by_cases backslash : char = '\\'
      · subst backslash
        rfl
      · have plain : shortEscape char = none := by
          unfold shortEscape
          split <;> first | rfl | (exfalso; revert control; decide) | contradiction
        simp only [escape, plain, if_neg control, List.singleton_append]
        unfold unescape
        split <;> simp_all

/-- A string body ends at its closing quote and nowhere else. -/
theorem body_inj {left right leftRest rightRest : List Char}
    (equal : left.flatMap escape ++ '"' :: leftRest =
      right.flatMap escape ++ '"' :: rightRest) :
    left = right ∧ leftRest = rightRest := by
  induction left generalizing right with
  | nil =>
      cases right with
      | nil => simpa using equal
      | cons char right =>
          have reads := congrArg unescape equal
          rw [List.flatMap_cons, List.append_assoc, unescape_escape] at reads
          simp [unescape] at reads
  | cons char left ih =>
      cases right with
      | nil =>
          have reads := congrArg unescape equal
          rw [List.flatMap_cons, List.append_assoc, unescape_escape] at reads
          simp [unescape] at reads
      | cons other right =>
          have reads := congrArg unescape equal
          rw [List.flatMap_cons, List.append_assoc, unescape_escape, List.flatMap_cons,
            List.append_assoc, unescape_escape, Option.some.injEq, Prod.mk.injEq] at reads
          obtain ⟨sameChar, sameRest⟩ := reads
          obtain ⟨sameBody, sameTail⟩ := ih sameRest
          exact ⟨by rw [sameChar, sameBody], sameTail⟩

theorem renderString_inj {left right : String} {leftRest rightRest : List Char}
    (equal : renderString left ++ leftRest = renderString right ++ rightRest) :
    left = right ∧ leftRest = rightRest := by
  simp only [renderString, List.cons_append, List.append_assoc, List.cons.injEq,
    true_and, List.nil_append] at equal
  obtain ⟨sameText, sameRest⟩ := body_inj equal
  exact ⟨String.toList_injective sameText, sameRest⟩

/-! ## Values -/

/-- Characters of number tokens. -/
def isNumberChar (char : Char) : Bool :=
  char.isDigit || ['-', '+', '.', 'e', 'E'].contains char

/-- What may follow a value: nothing that could extend a number. -/
def Stops (rest : List Char) : Prop :=
  ∀ char, rest.head? = some char → isNumberChar char = false

theorem isNumberChar_of_mem (number : JsonNumber) {char : Char}
    (member : char ∈ number.text) : isNumberChar char = true := by
  simpa [isNumberChar] using number.token char member

/-- A number token is the longest stretch of number characters. -/
theorem takeWhile_text (number : JsonNumber) {rest : List Char} (stops : Stops rest) :
    (number.text ++ rest).takeWhile isNumberChar = number.text := by
  rw [List.takeWhile_append_of_pos fun char => isNumberChar_of_mem number]
  cases rest with
  | nil => simp
  | cons char rest => simp [stops char rfl]

theorem text_inj {left right : JsonNumber} {leftRest rightRest : List Char}
    (leftStops : Stops leftRest) (rightStops : Stops rightRest)
    (equal : left.text ++ leftRest = right.text ++ rightRest) :
    left = right ∧ leftRest = rightRest := by
  have sameText : left.text = right.text := by
    rw [← takeWhile_text left leftStops, equal, takeWhile_text right rightStops]
  refine ⟨?_, ?_⟩
  · cases left
    cases right
    simpa using sameText
  · rw [sameText] at equal
    exact List.append_cancel_left equal

/-- The kind of a value: its first character, with one kind for all numbers. -/
def opening : Json → Char
  | .null => 'n'
  | .bool true => 't'
  | .bool false => 'f'
  | .number _ => '0'
  | .string _ => '"'
  | .array _ => '['
  | .object _ => '\x7b'

/-- The kind that the first character of a text announces. -/
def headKind (text : List Char) : Option Char :=
  text.head?.map fun char => if isNumberChar char then '0' else char

theorem headKind_render (tree : Json) (rest : List Char) :
    headKind (render tree ++ rest) = some (opening tree) := by
  cases tree with
  | null => rfl
  | bool value => cases value <;> rfl
  | number value =>
      cases text : value.text with
      | nil => exact absurd text value.nonempty
      | cons head tail =>
          have member : head ∈ value.text := by simp [text]
          have isNumber := isNumberChar_of_mem value member
          simp [render, text, headKind, isNumber, opening]
  | string value => rfl
  | array items => cases items <;> rfl
  | object members => rcases members with _ | ⟨⟨name, value⟩, members⟩ <;> rfl

theorem opening_eq {left right : Json} {leftRest rightRest : List Char}
    (equal : render left ++ leftRest = render right ++ rightRest) :
    opening left = opening right := by
  have kinds := congrArg headKind equal
  rw [headKind_render, headKind_render] at kinds
  exact Option.some.inj kinds

theorem render_ne_bracket (tree : Json) (rest other : List Char) :
    render tree ++ rest ≠ ']' :: other := by
  intro equal
  have kinds := congrArg headKind equal
  rw [headKind_render] at kinds
  have bracket : headKind (']' :: other) = some ']' := rfl
  rw [bracket] at kinds
  cases tree with
  | bool value => cases value <;> exact absurd kinds (by simp [opening])
  | _ => exact absurd kinds (by simp [opening])

theorem stops_cons {char : Char} (notNumber : isNumberChar char = false)
    (rest : List Char) : Stops (char :: rest) := by
  intro head isHead
  cases isHead
  exact notNumber

theorem stops_renderItems (items : List Json) (rest : List Char) :
    Stops (renderItems items ++ rest) := by
  cases items <;> exact stops_cons (by decide) _

theorem stops_renderMembers (members : List (String × Json)) (rest : List Char) :
    Stops (renderMembers members ++ rest) := by
  rcases members with _ | ⟨⟨name, value⟩, members⟩ <;> exact stops_cons (by decide) _

mutual
/-- The text of a value determines the value and what follows it. -/
theorem render_inj (left right : Json) {leftRest rightRest : List Char}
    (leftStops : Stops leftRest) (rightStops : Stops rightRest)
    (equal : render left ++ leftRest = render right ++ rightRest) :
    left = right ∧ leftRest = rightRest := by
  have kinds := opening_eq equal
  cases left with
  | null =>
      cases right with
      | null => simpa [render] using equal
      | bool value => cases value <;> exact absurd kinds (by decide)
      | _ => exact absurd kinds (by simp [opening])
  | bool value =>
      cases right with
      | bool other =>
          cases value <;> cases other <;> first
            | exact absurd kinds (by decide)
            | simpa [render] using equal
      | _ => cases value <;> exact absurd kinds (by simp [opening])
  | number value =>
      cases right with
      | number other =>
          obtain ⟨same, rest⟩ := text_inj leftStops rightStops equal
          exact ⟨congrArg _ same, rest⟩
      | bool other => cases other <;> exact absurd kinds (by simp [opening])
      | _ => exact absurd kinds (by simp [opening])
  | string value =>
      cases right with
      | string other =>
          obtain ⟨same, rest⟩ := renderString_inj equal
          exact ⟨congrArg _ same, rest⟩
      | bool other => cases other <;> exact absurd kinds (by simp [opening])
      | _ => exact absurd kinds (by simp [opening])
  | array items =>
      cases right with
      | array others =>
          obtain ⟨same, rest⟩ := renderArray_inj items others equal
          exact ⟨congrArg _ same, rest⟩
      | bool other => cases other <;> exact absurd kinds (by simp [opening])
      | _ => exact absurd kinds (by simp [opening])
  | object members =>
      cases right with
      | object others =>
          obtain ⟨same, rest⟩ := renderObject_inj members others equal
          exact ⟨congrArg _ same, rest⟩
      | bool other => cases other <;> exact absurd kinds (by simp [opening])
      | _ => exact absurd kinds (by simp [opening])

theorem renderArray_inj (left right : List Json) {leftRest rightRest : List Char}
    (equal : render (.array left) ++ leftRest = render (.array right) ++ rightRest) :
    left = right ∧ leftRest = rightRest := by
  cases left with
  | nil =>
      cases right with
      | nil => simpa [render] using equal
      | cons other others =>
          simp only [render, List.cons_append, List.cons.injEq, true_and,
            List.append_assoc] at equal
          exact absurd equal.symm (render_ne_bracket other _ _)
  | cons item items =>
      cases right with
      | nil =>
          simp only [render, List.cons_append, List.cons.injEq, true_and,
            List.append_assoc] at equal
          exact absurd equal (render_ne_bracket item _ _)
      | cons other others =>
          simp only [render, List.cons_append, List.cons.injEq, true_and,
            List.append_assoc] at equal
          obtain ⟨sameItem, sameTail⟩ := render_inj item other
            (stops_renderItems items _) (stops_renderItems others _) equal
          obtain ⟨sameItems, sameRest⟩ := renderItems_inj items others sameTail
          exact ⟨by rw [sameItem, sameItems], sameRest⟩

theorem renderObject_inj (left right : List (String × Json))
    {leftRest rightRest : List Char}
    (equal : render (.object left) ++ leftRest = render (.object right) ++ rightRest) :
    left = right ∧ leftRest = rightRest := by
  match left, right with
  | [], [] => simpa [render] using equal
  | [], (_, _) :: _ => simp [render, renderString] at equal
  | (_, _) :: _, [] => simp [render, renderString] at equal
  | (name, value) :: members, (other, bound) :: others =>
      simp only [render, List.cons_append, List.cons.injEq, true_and,
        List.append_assoc] at equal
      obtain ⟨sameName, sameValue⟩ := renderString_inj equal
      rw [List.cons.injEq] at sameValue
      obtain ⟨sameBound, sameTail⟩ := render_inj value bound
        (stops_renderMembers members _) (stops_renderMembers others _) sameValue.2
      obtain ⟨sameMembers, sameRest⟩ := renderMembers_inj members others sameTail
      exact ⟨by rw [sameName, sameBound, sameMembers], sameRest⟩

theorem renderItems_inj : (left right : List Json) → {leftRest rightRest : List Char} →
    renderItems left ++ leftRest = renderItems right ++ rightRest →
    left = right ∧ leftRest = rightRest
  | [], [], _, _, equal => by simpa [renderItems] using equal
  | [], _ :: _, _, _, equal => by simp [renderItems] at equal
  | _ :: _, [], _, _, equal => by simp [renderItems] at equal
  | item :: items, other :: others, _, _, equal => by
      simp only [renderItems, List.cons_append, List.cons.injEq, true_and,
        List.append_assoc] at equal
      obtain ⟨sameItem, sameTail⟩ := render_inj item other
        (stops_renderItems items _) (stops_renderItems others _) equal
      obtain ⟨sameItems, sameRest⟩ := renderItems_inj items others sameTail
      exact ⟨by rw [sameItem, sameItems], sameRest⟩

theorem renderMembers_inj : (left right : List (String × Json)) →
    {leftRest rightRest : List Char} →
    renderMembers left ++ leftRest = renderMembers right ++ rightRest →
    left = right ∧ leftRest = rightRest
  | [], [], _, _, equal => by simpa [renderMembers] using equal
  | [], (_, _) :: _, _, _, equal => by simp [renderMembers] at equal
  | (_, _) :: _, [], _, _, equal => by simp [renderMembers] at equal
  | (name, value) :: members, (other, bound) :: others, _, _, equal => by
      simp only [renderMembers, List.cons_append, List.cons.injEq, true_and,
        List.append_assoc] at equal
      obtain ⟨sameName, sameValue⟩ := renderString_inj equal
      rw [List.cons.injEq] at sameValue
      obtain ⟨sameBound, sameTail⟩ := render_inj value bound
        (stops_renderMembers members _) (stops_renderMembers others _) sameValue.2
      obtain ⟨sameMembers, sameRest⟩ := renderMembers_inj members others sameTail
      exact ⟨by rw [sameName, sameBound, sameMembers], sameRest⟩
end

theorem render_injective : Function.Injective render := by
  intro left right equal
  have stops : Stops [] := fun _ isHead => nomatch isHead
  have together : render left ++ [] = render right ++ [] := by rw [equal]
  exact (render_inj left right stops stops together).1

theorem toBytes_injective : Function.Injective toBytes := by
  intro left right equal
  apply render_injective
  apply String.ofList_injective
  apply String.toByteArray_inj.mp
  exact ByteArray.ext (Array.toList_inj.mp equal)

end Json
