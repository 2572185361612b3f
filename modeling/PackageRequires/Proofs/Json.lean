import Mathlib.Data.List.DropRight
import PackageRequires.Json.Reader

namespace PackageRequires.Json

/-! # Reading back what is written

A value written over several lines is read back from it, with any text behind it
that does not go on with a number.  Twice the size of a text is fuel enough to
read it, because every call of a reader has a character of its own.
-/

/-! ## Strings -/

theorem hexValue?_digitChar : ∀ n < 16, Text.hexValue? (Nat.digitChar n) = some n := by decide

theorem readUnicode?_control {c : Char} (control : c.toNat < 0x20) (rest : Text) :
    readUnicode? ('0' :: '0' :: hexDigit (c.toNat / 16) :: hexDigit (c.toNat % 16) :: rest) =
      some (c, rest) := by
  have high := hexValue?_digitChar (c.toNat / 16) (by omega)
  have low := hexValue?_digitChar (c.toNat % 16) (by omega)
  have zero : Text.hexValue? '0' = some 0 := by decide
  have whole : c.toNat / 16 * 16 + c.toNat % 16 = c.toNat := by omega
  have small : c.toNat < 0xD800 := by omega
  simp [readUnicode?, readUnit?, hexDigit, high, low, zero, whole, small]

theorem readString?_quoteCharacter (c : Char) (fuel : Nat) (rest : Text) :
    readString? (fuel + 1) (quoteCharacter c ++ rest) =
      (readString? fuel rest).map fun (contents, rest) => (c :: contents, rest) := by
  have escaped {text : Text} (stands : readEscape? text = some (c, rest)) :
      readString? (fuel + 1) ('\\' :: text) =
        (readString? fuel rest).map fun (contents, rest) => (c :: contents, rest) := by
    cases later : readString? fuel rest <;> simp [readString?, stands, later]
  unfold quoteCharacter
  -- Seven characters have an escape of their own.
  iterate 7
    split
    · rename_i same
      exact escaped (same ▸ rfl)
  split
  · rename_i control
    exact escaped (readUnicode?_control control rest)
  · rename_i notQuote notBackslash _ _ _ _ _ visible
    cases later : readString? fuel rest <;>
      simp [readString?, notQuote, notBackslash, visible, later]

theorem readString?_quoted (contents rest : Text) {fuel : Nat} (enough : contents.length < fuel) :
    readString? fuel (contents.flatMap quoteCharacter ++ '\"' :: rest) = some (contents, rest) := by
  induction contents generalizing fuel with
  | nil =>
      obtain ⟨fuel, rfl⟩ := Nat.exists_eq_add_of_lt enough
      simp [readString?]
  | cons c contents ih =>
      obtain ⟨fuel, rfl⟩ := Nat.exists_eq_add_of_lt enough
      have later : contents.length < contents.length + 1 + fuel := by omega
      rw [List.flatMap_cons, List.append_assoc, List.length_cons, readString?_quoteCharacter,
        ih later]
      rfl

/-! ## Gaps and numbers -/

theorem skipGap_append {gap : Text} (blank : ∀ c ∈ gap, isGap c = true) (text : Text) :
    skipGap (gap ++ text) = skipGap text :=
  List.dropWhile_append_of_pos blank

theorem readValue?_skipGap (fuel : Nat) (text : Text) :
    readValue? fuel (skipGap text) = readValue? fuel text := by
  cases fuel with
  | zero => rfl
  | succ fuel => simp only [readValue?, skipGap, List.dropWhile_idempotent]

theorem readValue?_gap {gap : Text} (blank : ∀ c ∈ gap, isGap c = true) (fuel : Nat) (text : Text) :
    readValue? fuel (gap ++ text) = readValue? fuel text := by
  rw [← readValue?_skipGap, skipGap_append blank, readValue?_skipGap]

/-- Texts behind a number, which they do not go on with. -/
def EndsNumber (rest : Text) : Prop := ∀ c ∈ rest.head?, isNumberCharacter c = false

/-- The literals of numbers, as far as the reader looks at them. -/
def IsNumber (literal : Text) : Prop :=
  (∀ c ∈ literal, isNumberCharacter c = true) ∧ ∃ c ∈ literal, c.isDigit = true

theorem readValue?_number {literal rest : Text} (number : IsNumber literal) (ends : EndsNumber rest)
    (fuel : Nat) : readValue? (fuel + 1) (literal ++ rest) = some (.number literal, rest) := by
  obtain ⟨all, digit⟩ := number
  have taken : (literal ++ rest).takeWhile isNumberCharacter = literal := by
    rw [List.takeWhile_append_of_pos all, List.append_right_eq_self]
    cases rest with
    | nil => rfl
    | cons c rest => simp [ends c rfl]
  have left : (literal ++ rest).dropWhile isNumberCharacter = rest := by
    rw [List.dropWhile_append_of_pos all]
    cases rest with
    | nil => rfl
    | cons c rest => simp [ends c rfl]
  cases literal with
  | nil => simp at digit
  | cons c literal =>
      have first := all c (by simp)
      have other (d : Char) (outside : isNumberCharacter d = false) : c ≠ d := by
        intro same
        rw [same, outside] at first
        cases first
      have visible : isGap c = false := by
        simp [isGap, other ' ' rfl, other '\t' rfl, other '\n' rfl, other '\r' rfl]
      have start : skipGap (c :: literal ++ rest) = c :: literal ++ rest := by
        simp [skipGap, visible]
      rw [readValue?, start]
      split <;> rename_i same
      -- No other value begins with a character of a number.
      iterate 6
        · exact absurd (List.cons.inj same).1 (other _ rfl)
      · rw [taken, left]
        exact if_pos (List.any_eq_true.mpr digit)

/-! ## Arrays and objects -/

theorem readItems?_skipGap (fuel : Nat) (text : Text) :
    readItems? fuel (skipGap text) = readItems? fuel text := by
  cases fuel with
  | zero => rfl
  | succ fuel => simp only [readItems?, readValue?_skipGap]

theorem readFields?_skipGap (fuel : Nat) (text : Text) :
    readFields? fuel (skipGap text) = readFields? fuel text := by
  cases fuel with
  | zero => rfl
  | succ fuel => simp only [readFields?, skipGap, List.dropWhile_idempotent]

theorem readItems?_bracket (fuel : Nat) (rest : Text) : readItems? fuel (']' :: rest) = none := by
  match fuel with
  | 0 => rfl
  | 1 => rfl
  | fuel + 2 => simp [readItems?, readValue?, skipGap, isGap, isNumberCharacter]

theorem readFields?_brace (fuel : Nat) (rest : Text) : readFields? fuel ('\x7d' :: rest) = none := by
  cases fuel with
  | zero => rfl
  | succ fuel => simp [readFields?, skipGap, isGap]

theorem readValue?_array {fuel : Nat} {text rest : Text} {items : List Json}
    (found : readItems? fuel text = some (items, rest)) :
    readValue? (fuel + 1) ('[' :: text) = some (.array items, rest) := by
  have start : skipGap ('[' :: text) = '[' :: text := rfl
  rw [← readItems?_skipGap] at found
  simp only [readValue?, start]
  split
  · rename_i closes
    rw [closes, readItems?_bracket] at found
    cases found
  · rw [found]
    rfl

theorem readValue?_object {fuel : Nat} {text rest : Text} {fields : List (Text × Json)}
    (found : readFields? fuel text = some (fields, rest)) :
    readValue? (fuel + 1) ('\x7b' :: text) = some (.object fields, rest) := by
  have start : skipGap ('\x7b' :: text) = '\x7b' :: text := rfl
  rw [← readFields?_skipGap] at found
  simp only [readValue?, start]
  split
  · rename_i closes
    rw [closes, readFields?_brace] at found
    cases found
  · rw [found]
    rfl

theorem readValue?_string (contents rest : Text) {fuel : Nat} (enough : contents.length < fuel) :
    readValue? (fuel + 1) (quoted contents ++ rest) = some (.string contents, rest) := by
  have start : skipGap (quoted contents ++ rest) =
      '\"' :: (contents.flatMap quoteCharacter ++ '\"' :: rest) := by
    simp [skipGap, quoted, isGap]
  simp [readValue?, start, readString?_quoted contents rest enough]

/-! ## Layout -/

/-- A line end and the indentation at `depth`. -/
def newLine (depth : Nat) : Text := '\n' :: List.replicate (2 * depth) ' '

/-- What stands in front of each part inside of brackets at `depth`. -/
def gapAt (depth : Nat) : Text := newLine depth ++ "  ".toList

@[simp] theorem length_newLine (depth : Nat) : (newLine depth).length = 2 * depth + 1 := by
  simp [newLine]

@[simp] theorem length_gapAt (depth : Nat) : (gapAt depth).length = 2 * depth + 3 := by
  simp [gapAt]

/-- The parts of an array or object behind its opening bracket. -/
def body (depth : Nat) (right : Char) : List Text → Text
  | [] => newLine depth ++ [right]
  | [part] => gapAt depth ++ part ++ newLine depth ++ [right]
  | part :: next :: parts => gapAt depth ++ part ++ ',' :: body depth right (next :: parts)

theorem joined_cons_cons (between part next : Text) (parts : List Text) :
    Text.joined between (part :: next :: parts) =
      part ++ between ++ Text.joined between (next :: parts) := by
  simp [Text.joined, List.intercalate, List.intersperse]

theorem joined_eq_body (depth : Nat) (right : Char) {parts : List Text} (nonempty : parts ≠ []) :
    gapAt depth ++ Text.joined (',' :: gapAt depth) parts ++ newLine depth ++ [right] =
      body depth right parts := by
  induction parts with
  | nil => exact absurd rfl nonempty
  | cons part parts ih =>
      cases parts with
      | nil => simp [Text.joined, List.intercalate, body]
      | cons next parts =>
          rw [joined_cons_cons, body, ← ih (by simp)]
          simp

theorem indented_eq (depth : Nat) (left right : Char) {parts : List Text} (nonempty : parts ≠ []) :
    indented depth left right parts = left :: body depth right parts := by
  rw [indented, ← joined_eq_body depth right nonempty, if_neg (by simpa using nonempty)]
  simp [gapAt, newLine]

theorem isGap_of_mem_newLine {depth : Nat} : ∀ c ∈ newLine depth, isGap c = true := by
  intro c member
  rcases List.mem_cons.mp member with rfl | space
  · rfl
  · rw [List.eq_of_mem_replicate space]
    rfl

theorem isGap_of_mem_gapAt {depth : Nat} : ∀ c ∈ gapAt depth, isGap c = true := by
  intro c member
  rcases List.mem_append.mp member with inLine | space
  · exact isGap_of_mem_newLine c inLine
  · obtain rfl : c = ' ' := by simpa using space
    rfl

theorem skipGap_newLine (depth : Nat) (c : Char) (rest : Text) (visible : isGap c = false) :
    skipGap (newLine depth ++ c :: rest) = c :: rest := by
  rw [skipGap_append isGap_of_mem_newLine]
  simp [skipGap, visible]

/-! ## Values -/

mutual

/-- All numbers in a value have literals. -/
def Sound : Json → Prop
  | .number literal => IsNumber literal
  | .array items => SoundItems items
  | .object fields => SoundFields fields
  | .null | .boolean _ | .string _ => True

def SoundItems : List Json → Prop
  | [] => True
  | item :: items => item.Sound ∧ SoundItems items

def SoundFields : List (Text × Json) → Prop
  | [] => True
  | (_, value) :: fields => value.Sound ∧ SoundFields fields

end

theorem endsNumber_newLine (depth : Nat) (rest : Text) : EndsNumber (newLine depth ++ rest) := by
  intro c head
  obtain rfl : '\n' = c := by simpa [newLine] using head
  rfl

theorem endsNumber_comma (rest : Text) : EndsNumber (',' :: rest) := by
  intro c head
  obtain rfl : ',' = c := by simpa using head
  rfl

section Parts

variable {fuel depth : Nat} {part rest more : Text} {value : Json}

theorem readItems?_last
    (found : readValue? fuel (part ++ (newLine depth ++ ']' :: rest)) =
      some (value, newLine depth ++ ']' :: rest)) :
    readItems? (fuel + 1) (gapAt depth ++ (part ++ (newLine depth ++ ']' :: rest))) =
      some ([value], rest) := by
  have closes := skipGap_newLine depth ']' rest rfl
  simp only [readItems?, readValue?_gap isGap_of_mem_gapAt, found, closes]

theorem readItems?_more {items : List Json}
    (found : readValue? fuel (part ++ ',' :: more) = some (value, ',' :: more))
    (later : readItems? fuel more = some (items, rest)) :
    readItems? (fuel + 1) (gapAt depth ++ (part ++ ',' :: more)) = some (value :: items, rest) := by
  have continues : skipGap (',' :: more) = ',' :: more := rfl
  simp only [readItems?, readValue?_gap isGap_of_mem_gapAt, found, continues, later, Option.map_some]

theorem skipGap_key (depth : Nat) (key text : Text) :
    skipGap (gapAt depth ++ (quoted key ++ text)) =
      '\"' :: (key.flatMap quoteCharacter ++ '\"' :: text) := by
  rw [skipGap_append isGap_of_mem_gapAt]
  simp [skipGap, quoted, isGap]

theorem skipGap_colon (text : Text) : skipGap (": ".toList ++ text) = ':' :: ([' '] ++ text) := rfl

theorem readValue?_space (fuel : Nat) (text : Text) :
    readValue? fuel ([' '] ++ text) = readValue? fuel text :=
  readValue?_gap (by simp [isGap]) fuel text

theorem readFields?_last (key : Text) (enough : key.length < fuel)
    (found : readValue? fuel (part ++ (newLine depth ++ '\x7d' :: rest)) =
      some (value, newLine depth ++ '\x7d' :: rest)) :
    readFields? (fuel + 1) (gapAt depth ++ (quoted key ++ (": ".toList ++
      (part ++ (newLine depth ++ '\x7d' :: rest))))) = some ([(key, value)], rest) := by
  have closes := skipGap_newLine depth '\x7d' rest rfl
  simp only [readFields?, skipGap_key, readString?_quoted _ _ enough, skipGap_colon,
    readValue?_space, found, closes]

theorem readFields?_more {fields : List (Text × Json)} (key : Text) (enough : key.length < fuel)
    (found : readValue? fuel (part ++ ',' :: more) = some (value, ',' :: more))
    (later : readFields? fuel more = some (fields, rest)) :
    readFields? (fuel + 1) (gapAt depth ++ (quoted key ++ (": ".toList ++ (part ++ ',' :: more)))) =
      some ((key, value) :: fields, rest) := by
  have continues : skipGap (',' :: more) = ',' :: more := rfl
  simp only [readFields?, skipGap_key, readString?_quoted _ _ enough, skipGap_colon,
    readValue?_space, found, continues, later, Option.map_some]

end Parts

theorem length_lt_quoted (contents : Text) : contents.length + 1 < (quoted contents).length := by
  have nonempty (c : Char) : 1 ≤ (quoteCharacter c).length := by
    unfold quoteCharacter
    repeat' split
    all_goals simp
  have longer : contents.length ≤ (contents.flatMap quoteCharacter).length := by
    induction contents with
    | nil => simp
    | cons c contents ih =>
        have first := nonempty c
        simp only [List.flatMap_cons, List.length_append, List.length_cons]
        omega
  simp only [quoted, List.length_cons, List.length_append, List.length_nil]
  omega

mutual

theorem readValue?_pretty : (json : Json) → json.Sound → ∀ (depth fuel : Nat) (rest : Text),
    EndsNumber rest → 2 * (pretty depth json).length ≤ fuel + 1 →
      readValue? (fuel + 1) (pretty depth json ++ rest) = some (json, rest)
  | .null, _, _, _, _, _, _ => rfl
  | .boolean true, _, _, _, _, _, _ => rfl
  | .boolean false, _, _, _, _, _, _ => rfl
  | .number _, sound, _, fuel, _, ends, _ => readValue?_number sound ends fuel
  | .string contents, _, _, _, rest, _, enough => by
      have shorter := length_lt_quoted contents
      rw [pretty] at enough
      exact readValue?_string contents rest (by omega)
  | .array [], _, _, _, _, _, _ => rfl
  | .array (item :: items), sound, depth, fuel, rest, _, enough => by
      have nonempty : prettyItems (depth + 1) (item :: items) ≠ [] := by simp [prettyItems]
      rw [pretty, indented_eq _ _ _ nonempty] at enough ⊢
      rw [List.length_cons] at enough
      exact readValue?_array (readItems?_pretty (item :: items) sound (by simp) _ _ rest (by omega))
  | .object [], _, _, _, _, _, _ => rfl
  | .object (field :: fields), sound, depth, fuel, rest, _, enough => by
      have nonempty : prettyFields (depth + 1) (field :: fields) ≠ [] := by simp [prettyFields]
      rw [pretty, indented_eq _ _ _ nonempty] at enough ⊢
      rw [List.length_cons] at enough
      exact readValue?_object
        (readFields?_pretty (field :: fields) sound (by simp) _ _ rest (by omega))

theorem readItems?_pretty : (items : List Json) → SoundItems items → items ≠ [] →
    ∀ (depth fuel : Nat) (rest : Text),
      2 * (body depth ']' (prettyItems (depth + 1) items)).length ≤ fuel →
        readItems? fuel (body depth ']' (prettyItems (depth + 1) items) ++ rest) = some (items, rest)
  | [], _, nonempty, _, _, _, _ => absurd rfl nonempty
  | [item], sound, _, depth, fuel, rest, enough => by
      simp only [prettyItems, body, List.length_append, length_gapAt, length_newLine] at enough
      obtain ⟨fuel, rfl⟩ : ∃ less, fuel = less + 2 := ⟨fuel - 2, by omega⟩
      have found := readValue?_pretty item sound.1 (depth + 1) fuel _
        (endsNumber_newLine depth (']' :: rest)) (by omega)
      simpa [prettyItems, body] using readItems?_last found
  | item :: next :: items, sound, _, depth, fuel, rest, enough => by
      simp only [prettyItems, body, List.length_append, List.length_cons, length_gapAt] at enough
      obtain ⟨fuel, rfl⟩ : ∃ less, fuel = less + 2 := ⟨fuel - 2, by omega⟩
      have later := readItems?_pretty (next :: items) sound.2 (by simp) depth (fuel + 1) rest
        (by simp only [prettyItems]; omega)
      have found := readValue?_pretty item sound.1 (depth + 1) fuel _
        (endsNumber_comma (body depth ']' (prettyItems (depth + 1) (next :: items)) ++ rest))
        (by omega)
      simpa [prettyItems, body] using readItems?_more found later

theorem readFields?_pretty : (fields : List (Text × Json)) → SoundFields fields → fields ≠ [] →
    ∀ (depth fuel : Nat) (rest : Text),
      2 * (body depth '\x7d' (prettyFields (depth + 1) fields)).length ≤ fuel →
        readFields? fuel (body depth '\x7d' (prettyFields (depth + 1) fields) ++ rest) =
          some (fields, rest)
  | [], _, nonempty, _, _, _, _ => absurd rfl nonempty
  | [(key, value)], sound, _, depth, fuel, rest, enough => by
      have shorter := length_lt_quoted key
      simp only [prettyFields, body, List.length_append, length_gapAt, length_newLine] at enough
      obtain ⟨fuel, rfl⟩ : ∃ less, fuel = less + 2 := ⟨fuel - 2, by omega⟩
      have found := readValue?_pretty value sound.1 (depth + 1) fuel _
        (endsNumber_newLine depth ('\x7d' :: rest)) (by omega)
      simpa [prettyFields, body] using readFields?_last key (by omega) found
  | (key, value) :: next :: fields, sound, _, depth, fuel, rest, enough => by
      have shorter := length_lt_quoted key
      simp only [prettyFields, body, List.length_append, List.length_cons, length_gapAt] at enough
      obtain ⟨fuel, rfl⟩ : ∃ less, fuel = less + 2 := ⟨fuel - 2, by omega⟩
      have later := readFields?_pretty (next :: fields) sound.2 (by simp) depth (fuel + 1) rest
        (by simp only [prettyFields]; omega)
      have found := readValue?_pretty value sound.1 (depth + 1) fuel _
        (endsNumber_comma (body depth '\x7d' (prettyFields (depth + 1) (next :: fields)) ++ rest))
        (by omega)
      simpa [prettyFields, body] using readFields?_more key (by omega) found later

end

/-- A value written on lines of its own is read back from them. -/
theorem parse?_pretty {json : Json} (sound : json.Sound) :
    parse? (pretty 0 json ++ ['\n']) = some json := by
  have found : readValue? (2 * (pretty 0 json ++ ['\n']).length + 2) (pretty 0 json ++ ['\n']) =
      some (json, ['\n']) := by
    apply readValue?_pretty json sound 0 _ ['\n'] (endsNumber_newLine 0 [])
    rw [List.length_append]
    omega
  rw [parse?, found]
  rfl

end PackageRequires.Json
