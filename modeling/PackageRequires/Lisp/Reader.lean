import PackageRequires.Lisp.Expr
import PackageRequires.Lisp.Token

namespace PackageRequires.Lisp

/-! # The reader

Reading one expression is a run over the lexemes of a text with a stack of what
is still open: lists with the items read so far, and quotes that wait for their
value.  The stack's height is the nesting depth, which a limit may bound.
-/

/-- An expression that is open: a list with its items, the latest first, or a
quote that waits for its value. -/
inductive Frame where
  | list (items : List Expr)
  | quote

/-- Where reading stands after a token. -/
inductive Progress where
  | finished (value : Expr)
  | reading (stack : List Frame)

/-- A value is read: it ends the reading, joins the innermost list, or ends the
quotes that wait for it. -/
def complete (value : Expr) : List Frame → Progress
  | [] => .finished value
  | .list items :: outer => .reading (.list (value :: items) :: outer)
  | .quote :: outer => complete value.quoted outer

/-- Opens a list or a quote, unless `limit` of them are open. -/
def push (limit : Option Nat) (frame : Frame) (stack : List Frame) : Except ReadError Progress :=
  match limit with
  | some depth =>
    if depth ≤ stack.length then .error (.tooDeep depth) else .ok (.reading (frame :: stack))
  | none => .ok (.reading (frame :: stack))

/-- What a token does to the stack. -/
def advance (limit : Option Nat) (stack : List Frame) : Token → Except ReadError Progress
  | .openParen => push limit (.list []) stack
  | .quote => push limit .quote stack
  | .closeParen =>
    match stack with
    | .list items :: outer => .ok (complete (.list items.reverse) outer)
    | _ => .error (.invalidSyntax [')'])
  | .symbol name => .ok (complete (.ofSymbol name) stack)
  | .string contents => .ok (complete (.string contents) stack)
  | .number literal => .ok (complete (.number literal) stack)

/-- Why reading stopped without a value, and the text it left unread. -/
structure ReadFailure where
  error : ReadError
  rest : Text
  deriving DecidableEq, Repr

/-- Reads on from a stack, and gives the value and the text behind it. -/
def readLexemes (limit : Option Nat) (ending : Ending) :
    List Frame → List Lexeme → Except ReadFailure (Expr × Text)
  | _, [] => .error ⟨ending.error, ending.rest⟩
  | stack, lexeme :: later =>
    match advance limit stack lexeme.token with
    | .error error => .error ⟨error, textOf later ending⟩
    | .ok (.finished value) => .ok (value, textOf later ending)
    | .ok (.reading stack) => readLexemes limit ending stack later

/-- Reads the expression at the front of a text, with at most `limit` lists and
quotes open at once, or any number of them. -/
def readWithin (limit : Option Nat) (text : Text) : Except ReadFailure (Expr × Text) :=
  let scanned := scan text
  readLexemes limit scanned.ending [] scanned.lexemes

/-- How many lists and quotes can be open at once. -/
def deepest : Nat := 512

/-- Reads the expression at the front of a text, and gives it with the text behind it. -/
def read (text : Text) : Except ReadFailure (Expr × Text) := readWithin (some deepest) text

theorem readLexemes_shorter {limit : Option Nat} {ending : Ending} {stack : List Frame}
    {lexemes : List Lexeme} {value : Expr} {rest : Text}
    (visible : ∀ lexeme ∈ lexemes, lexeme.slice ≠ [])
    (finished : readLexemes limit ending stack lexemes = .ok (value, rest)) :
    rest.length < (textOf lexemes ending).length := by
  induction lexemes generalizing stack with
  | nil => simp [readLexemes] at finished
  | cons lexeme later ih =>
      have taken : 0 < lexeme.slice.length :=
        List.length_pos_iff.mpr (visible lexeme (by simp))
      have longer : (textOf later ending).length < (textOf (lexeme :: later) ending).length := by
        simp only [textOf, List.flatMap_cons, Lexeme.text, List.length_append]
        omega
      simp only [readLexemes] at finished
      split at finished
      · cases finished
      · cases finished
        exact longer
      · exact Nat.lt_trans
          (ih (fun lexeme member => visible lexeme (by simp [member])) finished) longer

/-- Reading takes at least one character. -/
theorem read_shorter {text rest : Text} {value : Expr} (finished : read text = .ok (value, rest)) :
    rest.length < text.length := by
  have shorter := readLexemes_shorter (fun _ member => slice_ne_nil_of_mem_scan member) finished
  have whole := text_scan text
  rw [Scan.text] at whole
  rwa [whole] at shorter

/-- The expressions of a text one after another, each with the text behind it,
and the failure that ends them.  There is none if at least one was read and only
blanks follow. -/
def readAll (text : Text) : List (Expr × Text) × Option ReadFailure :=
  match _finished : read text with
  | .error failure => ([], some failure)
  | .ok (value, rest) =>
    if rest.allBlank then ([(value, rest)], none)
    else
      let (values, failure) := readAll rest
      ((value, rest) :: values, failure)
termination_by text.length
decreasing_by exact read_shorter _finished

end PackageRequires.Lisp
