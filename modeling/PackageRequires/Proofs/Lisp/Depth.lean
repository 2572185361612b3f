import PackageRequires.Proofs.Lisp.Cutting

namespace PackageRequires.Lisp

/-! # The nesting limit

How many parentheses and quotes are open after some tokens is a matter of the
grammar (`Open`), and the height of the reader's stack is that number
(`open_iff_walks`).  A limit on the height therefore changes nothing before the
first token that exceeds it, and there it ends the reading.
-/

/-- After the tokens `count` parentheses and quotes are open: behind a parenthesis
that is open stand complete items, behind a quote nothing, and then the next one. -/
inductive Open : List Token → Nat → Prop
  | start : Open [] 0
  | paren {tokens : List Token} {count : Nat} (outer : Open tokens count)
      (items : List Derivation) :
      Open (tokens ++ .openParen :: Derivation.tokensOf items) (count + 1)
  | quote {tokens : List Token} {count : Nat} (outer : Open tokens count) :
      Open (tokens ++ [.quote]) (count + 1)

theorem Opened.open {limit : Option Nat} {stack : List Frame} {tokens : List Token}
    (opened : Opened limit stack tokens) : Open tokens stack.length := by
  induction opened with
  | start => exact .start
  | list items _ _ ih => exact .paren ih items
  | quote _ _ ih => exact .quote ih

section Walking

variable {limit : Option Nat} {stack middle top : List Frame} {lexemes later : List Lexeme}

theorem Walks.opened {tokens : List Token} (walks : Walks limit stack lexemes top)
    (opened : Opened limit stack tokens) : Opened limit top (tokens ++ lexemes.map Lexeme.token) := by
  induction walks generalizing tokens with
  | nil stack => simpa using opened
  | cons advanced _ ih => simpa using ih (opened.advance advanced)

/-- What is open after some tokens is what the reader without a limit has open
after them. -/
theorem open_iff_walks {count : Nat} :
    Open (lexemes.map Lexeme.token) count ↔
      ∃ stack, Walks none [] lexemes stack ∧ stack.length = count := by
  constructor
  · intro opened
    generalize same : lexemes.map Lexeme.token = tokens at opened
    induction opened generalizing lexemes with
    | start =>
        obtain rfl := List.map_eq_nil_iff.mp same
        exact ⟨[], .nil [], rfl⟩
    | paren outer items ih =>
        simp only [List.map_eq_append_iff, List.map_eq_cons_iff] at same
        obtain ⟨front, tail, rfl, before, lexeme, inner, rfl, token, inside⟩ := same
        obtain ⟨stack, walks, height⟩ := ih before
        have opens : Leads none stack [lexeme] (.reading (.list [] :: stack)) := .single token rfl
        have filled : Walks none _ inner _ := walks_tokensOf items [] stack inner inside (by simp)
        exact ⟨_, walks.append (Walks.append opens filled), by simp [height]⟩
    | quote outer ih =>
        simp only [List.map_eq_append_iff, List.map_eq_singleton_iff] at same
        obtain ⟨front, tail, rfl, before, lexeme, rfl, token⟩ := same
        obtain ⟨stack, walks, height⟩ := ih before
        have opens : Leads none stack [lexeme] (.reading (.quote :: stack)) := .single token rfl
        exact ⟨_, walks.append opens, by simp [height]⟩
  · intro walked
    obtain ⟨stack, walks, rfl⟩ := walked
    simpa using (walks.opened .start).open

/-- A limit matters to a token only if it opens one more than the limit allows. -/
theorem advance_limit (bound : Nat) (stack : List Frame) (token : Token) :
    advance (some bound) stack token = advance none stack token ∨
      bound ≤ stack.length ∧ advance (some bound) stack token = .error (.tooDeep bound) ∧
        ∃ frame, advance none stack token = .ok (.reading (frame :: stack)) := by
  have pushes (frame : Frame) : push (some bound) frame stack = push none frame stack ∨
      bound ≤ stack.length ∧ push (some bound) frame stack = .error (.tooDeep bound) ∧
        ∃ opened, push none frame stack = .ok (.reading (opened :: stack)) := by
    by_cases full : bound ≤ stack.length
    · exact .inr ⟨full, if_pos full, frame, rfl⟩
    · exact .inl (if_neg full)
  cases token with
  | openParen => exact pushes (.list [])
  | quote => exact pushes .quote
  | _ => exact .inl rfl

theorem advance_of_fits {bound : Nat} {next : List Frame} {token : Token}
    (advanced : advance none stack token = .ok (.reading next)) (fits : next.length ≤ bound) :
    advance (some bound) stack token = .ok (.reading next) := by
  rcases advance_limit bound stack token with same | ⟨full, -, frame, opened⟩
  · rw [same, advanced]
  · rw [advanced] at opened
    cases opened
    simp only [List.length_cons] at fits
    omega

/-- With the limit no more than that many are ever open, so a token that would
open one more is refused. -/
theorem Walks.tooDeep {bound : Nat} {next : List Frame} {token : Token}
    (walks : Walks (some bound) [] lexemes top)
    (advanced : advance none top token = .ok (.reading next)) (deep : bound < next.length) :
    advance (some bound) top token = .error (.tooDeep bound) := by
  rcases advance_limit bound top token with same | ⟨-, refused, -⟩
  · have opened : Opened (some bound) next _ :=
      (walks.opened .start).advance (same.trans advanced)
    have fits := opened.length_le bound rfl
    omega
  · exact refused

/-- Reading the lexemes without a limit has at most `bound` frames open at each moment. -/
def Shallow (bound : Nat) (stack : List Frame) (lexemes : List Lexeme) : Prop :=
  ∀ front back top, lexemes = front ++ back → Walks none stack front top → top.length ≤ bound

theorem shallow_cons {bound : Nat} {lexeme : Lexeme} :
    Shallow bound stack (lexeme :: lexemes) ↔
      stack.length ≤ bound ∧
        ∀ next, advance none stack lexeme.token = .ok (.reading next) → Shallow bound next lexemes := by
  constructor
  · intro shallow
    refine ⟨shallow [] _ stack rfl (.nil stack), ?_⟩
    intro next advanced front back top same walks
    exact shallow (lexeme :: front) back top (by rw [same]; rfl) (.cons advanced walks)
  · intro ⟨fits, shallow⟩ front back top same walks
    cases walks with
    | nil => exact fits
    | cons advanced walks =>
        simp only [List.cons_append, List.cons.injEq] at same
        obtain ⟨rfl, same⟩ := same
        exact shallow _ advanced _ back top same walks

theorem Walks.within {bound : Nat} (walks : Walks none stack lexemes top)
    (shallow : Shallow bound stack lexemes) : Walks (some bound) stack lexemes top := by
  induction walks with
  | nil stack => exact .nil stack
  | cons advanced _ ih =>
      have later := (shallow_cons.mp shallow).2 _ advanced
      exact .cons (advance_of_fits advanced (later [] _ _ rfl (.nil _))) (ih later)

theorem readLexemes_of_shallow {bound : Nat} {ending : Ending}
    (shallow : Shallow bound stack lexemes) :
    readLexemes (some bound) ending stack lexemes = readLexemes none ending stack lexemes := by
  induction lexemes generalizing stack with
  | nil => rfl
  | cons lexeme lexemes ih =>
      have later := (shallow_cons.mp shallow).2
      rcases advance_limit bound stack lexeme.token with same | ⟨full, -, frame, opened⟩
      · cases advanced : advance none stack lexeme.token with
        | error reason => simp only [readLexemes, same, advanced]
        | ok progress =>
            rw [readLexemes_of_advance (same.trans advanced), readLexemes_of_advance advanced]
            cases progress with
            | finished value => rfl
            | reading next => exact ih (later next advanced)
      · have fits := later _ opened [] _ _ rfl (.nil _)
        simp only [List.length_cons] at fits
        omega

/-- The first token after which more than `bound` are open. -/
theorem exists_first_deep {bound : Nat} (walks : Walks none stack lexemes top)
    (fits : stack.length ≤ bound) (deep : bound < top.length) :
    ∃ front last back middle next, lexemes = front ++ last :: back ∧ Shallow bound stack front ∧
      Walks none stack front middle ∧ advance none middle last.token = .ok (.reading next) ∧
      bound < next.length := by
  induction walks with
  | nil stack => omega
  | @cons stack next top lexeme lexemes advanced _ ih =>
      by_cases fitsNext : next.length ≤ bound
      · obtain ⟨front, last, back, middle, after, rfl, shallow, walks, opens, deep⟩ := ih fitsNext deep
        refine ⟨lexeme :: front, last, back, middle, after, rfl, shallow_cons.mpr ⟨fits, ?_⟩,
          .cons advanced walks, opens, deep⟩
        intro other same
        rw [advanced] at same
        cases same
        exact shallow
      · refine ⟨[], lexeme, lexemes, stack, next, rfl, ?_, .nil stack, advanced, by omega⟩
        intro front back top same walks
        obtain ⟨rfl, -⟩ := List.append_eq_nil_iff.mp same.symm
        cases walks
        exact fits

end Walking

/-- After the first lexemes of a text, with `rest` behind them, `count`
parentheses and quotes are open. -/
def OpenAfter (text : Text) (lexemes : List Lexeme) (rest : Text) (count : Nat) : Prop :=
  Lexed text lexemes rest ∧ Open (lexemes.map Lexeme.token) count

/-- If more than 512 parentheses and quotes come to be open, reading fails behind
the first token that makes them so many; otherwise it gives what it gives without
a limit, and stops where that stops. -/
theorem read_up_to_limit (text : Text) :
    ((∃ lexemes rest count, OpenAfter text lexemes rest count ∧ 512 < count) →
      ∃ before last rest count, OpenAfter text (before ++ [last]) rest count ∧ 512 < count ∧
        (∀ front back after fewer, before = front ++ back → OpenAfter text front after fewer →
          fewer ≤ 512) ∧
        read text = .error ⟨.tooDeep 512, rest⟩) ∧
    ((∀ lexemes rest count, OpenAfter text lexemes rest count → count ≤ 512) →
      read text = readWithin none text) ∧
    ∀ (lexemes : List Lexeme) (count : Nat), Open (lexemes.map Lexeme.token) count ↔
      ∃ stack, Walks none [] lexemes stack ∧ stack.length = count := by
  refine ⟨?_, ?_, fun lexemes count => open_iff_walks⟩
  · intro ⟨lexemes, rest, count, ⟨lexed, opened⟩, deep⟩
    obtain ⟨stack, walks, rfl⟩ := open_iff_walks.mp opened
    obtain ⟨front, last, back, middle, next, rfl, shallow, walks, opens, deep⟩ :=
      exists_first_deep walks (Nat.zero_le 512) deep
    rw [List.append_cons] at lexed
    obtain ⟨after, lexed, -⟩ := lexed.split
    have exceeds : Walks none [] (front ++ [last]) next := walks.append (.cons opens (.nil next))
    refine ⟨front, last, after, next.length, ⟨lexed, open_iff_walks.mpr ⟨next, exceeds, rfl⟩⟩, deep,
      ?_, ?_⟩
    · intro front' back' after' fewer same ⟨_, opened⟩
      obtain ⟨stack, walks, rfl⟩ := open_iff_walks.mp opened
      exact shallow front' back' stack same walks
    · have limited := walks.within shallow
      have left := text_scan after
      rw [Scan.text] at left
      simp only [read, readWithin, deepest, lexed.scan, List.append_assoc]
      rw [limited.readLexemes, List.singleton_append, readLexemes, limited.tooDeep opens deep]
      simp only [left]
  · intro within
    refine readLexemes_of_shallow fun front back top same walks => ?_
    exact within front _ _ ⟨lexed_of_scan same, open_iff_walks.mpr ⟨top, walks, rfl⟩⟩

theorem openAfter_parentheses (count : Nat) :
    OpenAfter (List.replicate count '(') (List.replicate count ⟨[], ['('], .openParen⟩) [] count := by
  constructor
  · induction count with
    | zero => exact .nil []
    | succ count ih => exact .cons rfl ih
  · rw [List.map_replicate]
    induction count with
    | zero => exact .start
    | succ count ih =>
        rw [List.replicate_succ']
        exact .paren ih []

/-- One parenthesis too many. -/
theorem read_up_to_limit_parentheses :
    ∃ rest, read (List.replicate 513 '(') = .error ⟨.tooDeep 512, rest⟩ := by
  obtain ⟨_, _, rest, _, _, _, _, failed⟩ :=
    (read_up_to_limit (List.replicate 513 '(')).1 ⟨_, _, 513, openAfter_parentheses 513, by decide⟩
  exact ⟨rest, failed⟩

end PackageRequires.Lisp
