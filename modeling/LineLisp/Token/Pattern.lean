import LineLisp.Number.Numeral
import LineLisp.Text.Word
import LineLisp.Token

/-! The shapes of tokens.
Each pattern says how many characters at the front of a text it takes; `table`
lists the patterns in the order in which they are tried. -/
namespace LineLisp

def digitCount (text : List Char) : Nat :=
  (text.takeWhile Char.isDigit).length

def signCount : List Char → Nat
  | c :: _ => if Number.isSign c then 1 else 0
  | [] => 0

def isNameChar (c : Char) : Bool :=
  c.isAlphanum || c == '_'

inductive Pattern where
  | mark (text : String) (kind : TokenKind)
  /-- Fixed text that ends a word. -/
  | keyword (text : String) (kind : TokenKind)
  | numeral
  | identifier

namespace Pattern

def fractionLength? (text : List Char) : Option Nat :=
  match Number.unsigned text with
  | '0' :: '.' :: rest =>
    match digitCount rest with
    | 0 => none
    | n + 1 => some (signCount text + 2 + (n + 1))
  | _ => none

def zeroLength? : List Char → Option Nat
  | '0' :: _ => some 1
  | _ => none

def decimalLength? (text : List Char) : Option Nat :=
  match Number.unsigned text with
  | c :: rest =>
    if c.isDigit && c != '0' then
      let whole := 1 + digitCount rest
      match rest.drop (digitCount rest) with
      | '.' :: places => some (signCount text + whole + 1 + digitCount places)
      | _ => some (signCount text + whole)
    else none
  | [] => none

def numeralLength? (text : List Char) : Option Nat :=
  (fractionLength? text).or ((zeroLength? text).or (decimalLength? text))

def identifierLength? : List Char → Option Nat
  | c :: rest => if c.isAlpha then some (1 + (rest.takeWhile isNameChar).length) else none
  | [] => none

def length? (pattern : Pattern) (text : List Char) : Option Nat :=
  match pattern with
  | mark word _ => if word.toList.isPrefixOf text then some word.length else none
  | keyword word _ =>
    if word.toList.isPrefixOf text && Text.atWordEnd (text.drop word.length) then
      some word.length
    else none
  | numeral => numeralLength? text
  | identifier => identifierLength? text

def kind? (pattern : Pattern) (lexeme : List Char) : Option TokenKind :=
  match pattern with
  | mark _ kind => some kind
  | keyword _ kind => some kind
  | numeral => (Number.read? lexeme).map .number
  | identifier => some .name

def symbol (op : Operator) : Pattern :=
  mark op.symbol (.operator op)

def word (op : Operator) : Pattern :=
  keyword op.symbol (.operator op)

/-- Earlier patterns win: a number before a sign, `>=` before `>`, a keyword
before a name. -/
def table : List Pattern :=
  [mark "(" .leftParen, mark ")" .rightParen, numeral,
    symbol .plus, symbol .minus, symbol .times, symbol .divide,
    word .and, word .or, word .not,
    symbol .equal, symbol .greaterEqual, symbol .lessEqual, symbol .greater, symbol .less,
    keyword "true" (.boolean true), keyword "false" (.boolean false),
    word .conditional, word .define, identifier]

def first? (text : List Char) : Option (Pattern × Nat) :=
  table.findSome? fun pattern => (pattern.length? text).map (pattern, ·)

theorem fractionLength?_pos {text : List Char} {n : Nat} (fits : fractionLength? text = some n) :
    0 < n := by
  unfold fractionLength? at fits
  split at fits
  · split at fits
    · cases fits
    · cases fits; omega
  · cases fits

theorem zeroLength?_pos {text : List Char} {n : Nat} (fits : zeroLength? text = some n) :
    0 < n := by
  unfold zeroLength? at fits
  split at fits <;> cases fits
  omega

theorem decimalLength?_pos {text : List Char} {n : Nat} (fits : decimalLength? text = some n) :
    0 < n := by
  unfold decimalLength? at fits
  split at fits
  · split at fits
    · simp only at fits
      split at fits <;> cases fits <;> omega
    · cases fits
  · cases fits

theorem numeralLength?_pos {text : List Char} {n : Nat} (fits : numeralLength? text = some n) :
    0 < n := by
  simp only [numeralLength?, Option.or_eq_some_iff] at fits
  rcases fits with fits | ⟨_, fits | ⟨_, fits⟩⟩
  · exact fractionLength?_pos fits
  · exact zeroLength?_pos fits
  · exact decimalLength?_pos fits

theorem identifierLength?_pos {text : List Char} {n : Nat}
    (fits : identifierLength? text = some n) : 0 < n := by
  unfold identifierLength? at fits
  split at fits
  · split at fits <;> cases fits
    omega
  · cases fits

def Solid : Pattern → Prop
  | mark text _ => 0 < text.length
  | keyword text _ => 0 < text.length
  | numeral => True
  | identifier => True

theorem solid_of_mem_table {pattern : Pattern} (listed : pattern ∈ table) : pattern.Solid := by
  simp only [table, List.mem_cons, List.not_mem_nil, or_false] at listed
  rcases listed with h | h | h | h | h | h | h | h | h | h | h | h | h | h | h | h | h | h | h | h <;>
    subst h <;> simp [Solid, symbol, word] <;> decide

theorem length?_pos {pattern : Pattern} {text : List Char} {n : Nat} (solid : pattern.Solid)
    (fits : pattern.length? text = some n) : 0 < n := by
  cases pattern with
  | mark word kind =>
    simp only [length?] at fits
    split at fits <;> cases fits
    exact solid
  | keyword word kind =>
    simp only [length?] at fits
    split at fits <;> cases fits
    exact solid
  | numeral => exact numeralLength?_pos fits
  | identifier => exact identifierLength?_pos fits

theorem first?_pos {text : List Char} {pattern : Pattern} {n : Nat}
    (fits : first? text = some (pattern, n)) : 0 < n := by
  obtain ⟨found, listed, taken⟩ := List.exists_of_findSome?_eq_some fits
  obtain ⟨count, length, same⟩ := Option.map_eq_some_iff.mp taken
  cases same
  exact length?_pos (solid_of_mem_table listed) length

end Pattern

end LineLisp
