import TimeRange.Expression.Match

/-!
# Items

An expression is cut into items from left to right. White space is skipped;
at any other place the longest piece that some kind of token matches is cut
off, or a piece without a token where nothing matches. `itemsFrom` gives the
items in order, each with its text and the byte at which it starts.
-/

namespace TimeRange

open Text

/-- A piece of a text with the token it spells, if it spells one, and the byte at which it starts. -/
structure Item where
  token? : Option Token
  lexeme : List Char
  start : Nat
  deriving DecidableEq, Repr

def utf8Length : List Char → Nat
  | [] => 0
  | first :: rest => first.utf8Size + utf8Length rest

namespace Item

def stop (item : Item) : Nat :=
  item.start + utf8Length item.lexeme

end Item

def isSeparator (character : Char) : Bool :=
  character == ' ' || character == '\t' || character == '\r' || character == '\n'
    || character == '\x0c'

/-- The items of a text whose first character is at byte `start`. -/
def itemsFrom (start : Nat) (text : List Char) : List Item :=
  match text with
  | [] => []
  | first :: rest =>
      if isSeparator first then itemsFrom (start + first.utf8Size) rest
      else
        let found := Match.next (first :: rest)
        let lexeme := (first :: rest).take found.length
        ⟨found.token?, lexeme, start⟩
          :: itemsFrom (start + utf8Length lexeme) ((first :: rest).drop found.length)
termination_by text.length
decreasing_by
  · exact Nat.lt_succ_self rest.length
  · have fits := Match.next_fits (List.cons_ne_nil first rest)
    rw [List.length_drop]
    exact Nat.sub_lt (Nat.succ_pos _) fits.1

def items (text : List Char) : List Item :=
  itemsFrom 0 text

theorem itemsFrom_nil (start : Nat) : itemsFrom start [] = [] := by
  rw [itemsFrom]

theorem itemsFrom_separator {first : Char} (separates : isSeparator first = true) (start : Nat)
    (rest : List Char) : itemsFrom start (first :: rest) = itemsFrom (start + first.utf8Size) rest := by
  rw [itemsFrom, if_pos separates]

theorem itemsFrom_piece {first : Char} (stands : isSeparator first = false) (start : Nat)
    (rest : List Char) :
    itemsFrom start (first :: rest) =
      let found := Match.next (first :: rest)
      let lexeme := (first :: rest).take found.length
      ⟨found.token?, lexeme, start⟩
        :: itemsFrom (start + utf8Length lexeme) ((first :: rest).drop found.length) := by
  rw [itemsFrom, if_neg (by rw [stands]; exact Bool.false_ne_true)]

theorem utf8Length_append (left right : List Char) :
    utf8Length (left ++ right) = utf8Length left + utf8Length right := by
  induction left with
  | nil => exact (Nat.zero_add _).symm
  | cons first rest ih =>
      simp only [List.cons_append, utf8Length, ih]
      omega

end TimeRange
