namespace PackageRequires

/-! # Text

Every document, header and message is the list of its characters.  Scanners
recurse on that list and hand over the part they did not read, so a position in
a text is the size of what stands before it: in UTF-8 bytes for spans, in UTF-16
units for editor columns.
-/

/-- A text is the list of its characters. -/
abbrev Text := List Char

namespace Text

/-- The characters with the Unicode property White_Space. -/
def isBlank (c : Char) : Bool :=
  let code := c.toNat
  (0x9 ≤ code && code ≤ 0xD) || code == 0x20 || code == 0x85 || code == 0xA0 ||
    code == 0x1680 || (0x2000 ≤ code && code ≤ 0x200A) || code == 0x2028 ||
    code == 0x2029 || code == 0x202F || code == 0x205F || code == 0x3000

/-- A space or a tab, the only blanks that header lines allow for. -/
def isSpaceOrTab (c : Char) : Bool := c == ' ' || c == '\t'

/-- A space, and no other blank. -/
def isSpace (c : Char) : Bool := c == ' '

/-- Number of UTF-8 bytes. -/
def utf8Size : Text → Nat
  | [] => 0
  | c :: text => c.utf8Size + utf8Size text

/-- Number of UTF-16 units that one character takes. -/
def unitsOf (c : Char) : Nat := if c.toNat < 0x10000 then 1 else 2

/-- Number of UTF-16 units. -/
def utf16Size : Text → Nat
  | [] => 0
  | c :: text => unitsOf c + utf16Size text

@[simp] theorem utf8Size_nil : utf8Size [] = 0 := rfl

@[simp] theorem utf8Size_cons (c : Char) (text : Text) :
    utf8Size (c :: text) = c.utf8Size + utf8Size text := rfl

@[simp] theorem utf8Size_append (front back : Text) :
    utf8Size (front ++ back) = utf8Size front + utf8Size back := by
  induction front with
  | nil => simp
  | cons c front ih => simp [ih, Nat.add_assoc]

@[simp] theorem utf16Size_nil : utf16Size [] = 0 := rfl

@[simp] theorem utf16Size_cons (c : Char) (text : Text) :
    utf16Size (c :: text) = unitsOf c + utf16Size text := rfl

@[simp] theorem utf16Size_append (front back : Text) :
    utf16Size (front ++ back) = utf16Size front + utf16Size back := by
  induction front with
  | nil => simp
  | cons c front ih => simp [ih, Nat.add_assoc]

/-- The order of texts: character by character, and a text before its
continuations.  It is also the order of their UTF-8 bytes. -/
def isBefore : Text → Text → Bool
  | _, [] => false
  | [], _ :: _ => true
  | c :: text, d :: other => c.toNat < d.toNat || (c == d && isBefore text other)

theorem isBefore_irrefl (text : Text) : isBefore text text = false := by
  induction text with
  | nil => rfl
  | cons c text ih => simp [isBefore, ih]

theorem isBefore_trans {first second third : Text} (left : isBefore first second = true)
    (right : isBefore second third = true) : isBefore first third = true := by
  induction first generalizing second third with
  | nil => cases third <;> cases second <;> simp_all [isBefore]
  | cons c first ih =>
      cases second with
      | nil => simp [isBefore] at left
      | cons d second =>
          cases third with
          | nil => simp [isBefore] at right
          | cons e third =>
              simp only [isBefore, Bool.or_eq_true, decide_eq_true_eq, Bool.and_eq_true,
                beq_iff_eq] at left right ⊢
              rcases left with less | ⟨same, later⟩
              · rcases right with less' | ⟨same', _⟩
                · exact .inl (Nat.lt_trans less less')
                · exact .inl (same' ▸ less)
              · subst same
                rcases right with less' | ⟨same', later'⟩
                · exact .inl less'
                · exact .inr ⟨same', ih later later'⟩

/-- Of two different texts, one is before the other. -/
theorem isBefore_of_not_isBefore {first second : Text} (different : first ≠ second)
    (notBefore : isBefore first second = false) : isBefore second first = true := by
  induction first generalizing second with
  | nil => cases second <;> simp_all [isBefore]
  | cons c first ih =>
      cases second with
      | nil => rfl
      | cons d second =>
          simp only [isBefore, Bool.or_eq_false_iff, decide_eq_false_iff_not, Nat.not_lt,
            Bool.or_eq_true, decide_eq_true_eq, Bool.and_eq_true, beq_iff_eq] at notBefore ⊢
          by_cases same : c = d
          · subst same
            have later : first ≠ second := fun equal => different (by rw [equal])
            exact .inr ⟨rfl, ih later (by simpa using notBefore.2)⟩
          · have codes : c.toNat ≠ d.toNat := fun equal => same (Char.toNat_inj.mp equal)
            exact .inl (by omega)

/-- What follows `front`, if the text starts with it. -/
def dropFront? : (front : Text) → Text → Option Text
  | [], text => some text
  | _ :: _, [] => none
  | c :: front, d :: text => if c = d then dropFront? front text else none

theorem dropFront?_eq_some_iff {front text rest : Text} :
    dropFront? front text = some rest ↔ text = front ++ rest := by
  induction front generalizing text with
  | nil => simp [dropFront?, eq_comm]
  | cons c front ih =>
      cases text with
      | nil => simp [dropFront?]
      | cons d text =>
          by_cases same : c = d
          · simp [dropFront?, same, ih]
          · simp [dropFront?, same, Ne.symm same]

/-- What stands before `back`, if the text ends with it. -/
def dropBack? (back text : Text) : Option Text :=
  (dropFront? back.reverse text.reverse).map List.reverse

theorem dropBack?_eq_some_iff {back text rest : Text} :
    dropBack? back text = some rest ↔ text = rest ++ back := by
  simp only [dropBack?, Option.map_eq_some_iff, dropFront?_eq_some_iff]
  constructor
  · rintro ⟨reversed, same, rfl⟩
    simpa using congrArg List.reverse same
  · rintro rfl
    exact ⟨rest.reverse, by simp, by simp⟩

/-- The text without the characters at its end that satisfy `drop`. -/
def dropEndWhile (drop : Char → Bool) (text : Text) : Text :=
  (text.reverse.dropWhile drop).reverse

/-- The text without the characters at either end that satisfy `drop`. -/
def trimWhile (drop : Char → Bool) (text : Text) : Text :=
  dropEndWhile drop (text.dropWhile drop)

/-- The text without the blanks at either end. -/
def trim (text : Text) : Text := trimWhile isBlank text

/-- Whether every character is a blank. -/
def allBlank (text : Text) : Bool := text.all isBlank

/-- What stands before the first character that satisfies `divides`, and what
follows it if there is one. -/
def cut (divides : Char → Bool) : Text → Text × Option Text
  | [] => ([], none)
  | c :: rest =>
    if divides c then ([], some rest)
    else
      let (before, after) := cut divides rest
      (c :: before, after)

theorem cut_spec {divides : Char → Bool} {text before : Text} {after : Option Text}
    (found : cut divides text = (before, after)) :
    (∀ c ∈ before, divides c = false) ∧
      ((after = none ∧ text = before) ∨
        ∃ c rest, divides c = true ∧ after = some rest ∧ text = before ++ c :: rest) := by
  induction text generalizing before with
  | nil => cases found; simp
  | cons c text ih =>
      simp only [cut] at found
      split at found
      · rename_i mark
        cases found
        exact ⟨by simp, .inr ⟨c, text, mark, rfl, rfl⟩⟩
      · rename_i inside
        cases found
        obtain ⟨clean, rest⟩ := ih rfl
        refine ⟨by simpa [inside] using clean, ?_⟩
        rcases rest with ⟨none, same⟩ | ⟨d, rest, mark, some, same⟩
        · exact .inl ⟨none, congrArg (c :: ·) same⟩
        · exact .inr ⟨d, rest, mark, some, congrArg (c :: ·) same⟩

theorem cut_of_clear {divides : Char → Bool} {text : Text}
    (clear : ∀ d ∈ text, divides d = false) : text.cut divides = (text, none) := by
  induction text with
  | nil => rfl
  | cons d text ih =>
      have first := clear d List.mem_cons_self
      have later := ih fun e member => clear e (List.mem_cons_of_mem d member)
      simp [cut, first, later]

theorem cut_append_cons {divides : Char → Bool} {front : Text} {c : Char}
    (clear : ∀ d ∈ front, divides d = false) (mark : divides c = true) (rest : Text) :
    (front ++ c :: rest).cut divides = (front, some rest) := by
  induction front with
  | nil => simp [cut, mark]
  | cons d front ih =>
      have first := clear d List.mem_cons_self
      have later := ih fun e member => clear e (List.mem_cons_of_mem d member)
      simp [cut, first, later]

/-- What stands before and after the first occurrence of `mark`. -/
def cutAt? (mark : Text) : Text → Option (Text × Text)
  | [] => (dropFront? mark []).map fun rest => ([], rest)
  | c :: text =>
    match dropFront? mark (c :: text) with
    | some rest => some ([], rest)
    | none => (cutAt? mark text).map fun (before, after) => (c :: before, after)

/-- Whether `mark` occurs in the text. -/
def contains (mark text : Text) : Bool := (cutAt? mark text).isSome

theorem cutAt?_spec {mark text before after : Text}
    (found : cutAt? mark text = some (before, after)) :
    text = before ++ mark ++ after := by
  induction text generalizing before with
  | nil =>
      simp only [cutAt?, Option.map_eq_some_iff, dropFront?_eq_some_iff] at found
      obtain ⟨rest, same, pair⟩ := found
      cases pair
      simpa using same
  | cons c text ih =>
      simp only [cutAt?] at found
      split at found
      · rename_i rest starts
        cases found
        simpa using dropFront?_eq_some_iff.mp starts
      · simp only [Option.map_eq_some_iff] at found
        obtain ⟨⟨front, back⟩, later, pair⟩ := found
        cases pair
        simpa using ih later

/-- The text holds no mark that begins earlier than the one it is cut at. -/
theorem cutAt?_shortest {mark text before after other behind : Text}
    (found : cutAt? mark text = some (before, after)) (split : text = other ++ mark ++ behind) :
    before.length ≤ other.length := by
  induction text generalizing before other with
  | nil =>
      simp only [cutAt?, Option.map_eq_some_iff] at found
      obtain ⟨rest, -, pair⟩ := found
      cases pair
      exact Nat.zero_le _
  | cons c text ih =>
      simp only [cutAt?] at found
      split at found
      · cases found
        exact Nat.zero_le _
      · rename_i absent
        simp only [Option.map_eq_some_iff] at found
        obtain ⟨⟨front, back⟩, later, pair⟩ := found
        cases pair
        cases other with
        | nil =>
            have starts : dropFront? mark (c :: text) = some behind :=
              dropFront?_eq_some_iff.mpr split
            rw [starts] at absent
            cases absent
        | cons d other => exact Nat.succ_le_succ (ih later (List.cons.inj split).2)

theorem contains_iff {mark text : Text} :
    contains mark text = true ↔ ∃ before after, text = before ++ mark ++ after := by
  constructor
  · intro occurs
    obtain ⟨⟨before, after⟩, found⟩ := Option.isSome_iff_exists.mp occurs
    exact ⟨before, after, cutAt?_spec found⟩
  · rintro ⟨before, after, rfl⟩
    simp only [contains]
    induction before with
    | nil =>
        have starts : dropFront? mark (mark ++ after) = some after :=
          dropFront?_eq_some_iff.mpr rfl
        rw [List.nil_append]
        generalize mark ++ after = whole at starts
        cases whole <;> simp [cutAt?, starts]
    | cons c before ih =>
        simp only [List.cons_append, cutAt?]
        split
        · rfl
        · simpa [Option.isSome_map] using ih

/-- The maximal runs of characters that do not satisfy `divides`. -/
def words (divides : Char → Bool) (text : Text) : List Text :=
  (text.splitBy fun c d => divides c == divides d).filter fun run => run.all fun c => !divides c

/-- The parts between the characters that satisfy `divides`; there is one part
more than there are such characters. -/
def split (divides : Char → Bool) : Text → List Text
  | [] => [[]]
  | c :: rest =>
    if divides c then [] :: split divides rest
    else
      match split divides rest with
      | [] => [[c]]
      | first :: later => (c :: first) :: later

/-- What stands before the first newline, and the pieces between the later
newlines up to the end. -/
def pieces (text : Text) : Text × List Text :=
  text.foldr
    (fun c (first, later) => if c = '\n' then ([], first :: later) else (c :: first, later))
    ([], [])

/-- A line that ends in a newline, without one carriage return directly before it. -/
def dropReturn (line : Text) : Text := (dropBack? ['\r'] line).getD line

/-- The lines of a text.  A line ends at a newline, together with one carriage
return directly before it; what follows the last newline is a line only if it
is not empty. -/
def lines (text : Text) : List Text :=
  let (first, later) := pieces text
  let all := first :: later
  let last := all.getLast (by simp [all])
  all.dropLast.map dropReturn ++ if last.isEmpty then [] else [last]

/-- Line `number` of a text, counted from one. -/
def line? (text : Text) (number : Nat) : Option Text :=
  if number = 0 then none else (lines text)[number - 1]?

/-- The text that UTF-8 bytes stand for, if they are well formed. -/
def ofUtf8? (bytes : ByteArray) : Option Text := (String.fromUTF8? bytes).map String.toList

/-- The value of a hexadecimal digit. -/
def hexValue? (c : Char) : Option Nat :=
  if '0' ≤ c ∧ c ≤ '9' then some (c.toNat - '0'.toNat)
  else if 'a' ≤ c ∧ c ≤ 'f' then some (c.toNat - 'a'.toNat + 10)
  else if 'A' ≤ c ∧ c ≤ 'F' then some (c.toNat - 'A'.toNat + 10)
  else none

/-- The number that digits of a base up to sixteen denote; no digits denote zero. -/
def numeral? (base : Nat) (digits : Text) : Option Nat :=
  digits.foldlM (fun number c => do
    let digit ← hexValue? c
    if digit < base then some (number * base + digit) else none) 0

/-- Decimal digits of a number. -/
def ofNat (n : Nat) : Text := (toString n).toList

/-- The texts in order, with `between` put between neighbours. -/
def joined (between : Text) (texts : List Text) : Text := between.intercalate texts

end Text

end PackageRequires
