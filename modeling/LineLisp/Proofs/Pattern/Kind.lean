import LineLisp.Proofs.Pattern.Longest

/-! How tokens of each kind are spelled.
What a pattern takes can be read as a kind of token, numerals as numbers, and it
spells a token of that kind. -/
namespace LineLisp

namespace Number

theorem read?_whole {text digits : List Char} {first : Char} (plain : unsigned text = first :: digits)
    (numeric : Digits (first :: digits)) : read? text = some (ofNumeral text) := by
  have taken := List.takeWhile_eq_self_iff.mpr numeric
  unfold read?
  simp only [plain, taken, List.cons_ne_nil, if_false, List.drop_length]

theorem read?_fraction {text digits places : List Char} {first : Char}
    (plain : unsigned text = first :: (digits ++ '.' :: places)) (numeric : Digits (first :: digits))
    (placed : Digits places) : read? text = some (ofNumeral text) := by
  have stopped : ∀ c ∈ ('.' :: places).head?, c.isDigit = false := by
    rintro _ ⟨⟩
    rfl
  have taken := takeWhile_append numeric stopped
  have all : places.all Char.isDigit = true := List.all_eq_true.mpr placed
  rw [← List.cons_append] at plain
  unfold read?
  simp only [plain, taken, List.cons_ne_nil, if_false, List.drop_left, all, and_self, if_true]

theorem read?_numeral {text : List Char} (numeral : Numeral text) :
    read? text = some (ofNumeral text) := by
  have leading {first : Char} {digits : List Char} (digit : first.isDigit = true)
      (numeric : Digits digits) : Digits (first :: digits) := List.forall_mem_cons.mpr ⟨digit, numeric⟩
  have zero : Digits ['0'] := leading rfl nofun
  cases numeral with
  | @fraction sign digits signed filled numeric =>
    have plain : unsigned (sign ++ '0' :: '.' :: digits) = '0' :: ([] ++ '.' :: digits) :=
      (unsigned_append signed rfl _).1
    exact read?_fraction plain zero numeric
  | zero => exact read?_whole rfl zero
  | whole signed digit nonzero numeric =>
    exact read?_whole (unsigned_append signed digit _).1 (leading digit numeric)
  | decimal signed digit nonzero numeric placed =>
    exact read?_fraction (unsigned_append signed digit _).1 (leading digit numeric) placed

end Number

def keywords : List String :=
  ["and", "or", "not", "true", "false", "if", "define"]

namespace TokenKind

def spelling? : TokenKind → Option String
  | leftParen => some "("
  | rightParen => some ")"
  | operator op => some op.symbol
  | boolean true => some "true"
  | boolean false => some "false"
  | number _ | name | endOfLine | invalid => none

def Spells (kind : TokenKind) (lexeme : List Char) : Prop :=
  match kind with
  | number value => Numeral lexeme ∧ value = Number.ofNumeral lexeme
  | name => Identifier lexeme
  | kind => kind.spelling? = some (String.ofList lexeme)

end TokenKind

namespace Pattern

def faithful : Pattern → Bool
  | mark text kind => kind.spelling? = some text
  | keyword text kind => kind.spelling? = some text && text ∈ keywords
  | numeral => true
  | identifier => true

theorem table_faithful : ∀ pattern ∈ table, pattern.faithful = true := by
  decide

theorem spells_of_spelling {kind : TokenKind} {text : String} (own : kind.spelling? = some text) :
    kind.Spells text.toList := by
  cases kind with
  | number => cases own
  | name => cases own
  | _ =>
    rw [← String.ofList_toList (s := text)] at own
    exact own

def kind (pattern : Pattern) (lexeme : List Char) : TokenKind :=
  match pattern with
  | mark _ kind => kind
  | keyword _ kind => kind
  | numeral => .number (Number.ofNumeral lexeme)
  | identifier => .name

variable {pattern : Pattern} {lexeme rest : List Char}

/-- What a pattern takes is never without a kind: the numerals among it can be read. -/
theorem kind?_eq (accepts : pattern.Accepts lexeme rest) :
    pattern.kind? lexeme = some (pattern.kind lexeme) := by
  cases pattern with
  | numeral => exact congrArg (Option.map TokenKind.number) (Number.read?_numeral accepts)
  | _ => rfl

theorem kind_spells (listed : pattern ∈ table) (accepts : pattern.Accepts lexeme rest) :
    (pattern.kind lexeme).Spells lexeme := by
  have faithful := table_faithful pattern listed
  cases pattern with
  | mark text kind =>
    obtain rfl := accepts
    exact spells_of_spelling (of_decide_eq_true faithful)
  | keyword text kind =>
    obtain ⟨rfl, -⟩ := accepts
    have own := (Bool.and_eq_true_iff.mp faithful).1
    exact spells_of_spelling (of_decide_eq_true own)
  | numeral => exact ⟨accepts, rfl⟩
  | identifier => exact accepts

theorem mem_keywords_of_accepts (listed : pattern ∈ table) (keyed : pattern.isKeyword = true)
    (accepts : pattern.Accepts lexeme rest) : String.ofList lexeme ∈ keywords := by
  have faithful := table_faithful pattern listed
  cases pattern with
  | keyword text kind =>
    obtain ⟨rfl, -⟩ := accepts
    rw [String.ofList_toList]
    exact of_decide_eq_true (Bool.and_eq_true_iff.mp faithful).2
  | _ => cases keyed

theorem first?_spelling {kind : TokenKind} {text : String} (own : kind.spelling? = some text) :
    ∃ pattern, first? text.toList = some (pattern, text.toList.length) ∧
      pattern.kind text.toList = kind := by
  cases kind with
  | operator op => cases op <;> cases own <;> exact ⟨_, rfl, rfl⟩
  | boolean value => cases value <;> cases own <;> exact ⟨_, rfl, rfl⟩
  | _ => cases own <;> exact ⟨_, rfl, rfl⟩

theorem first?_keyword {word : String} (listed : word ∈ keywords) :
    ∃ pattern, first? word.toList = some (pattern, word.toList.length) ∧
      pattern.kind word.toList ≠ .name := by
  simp only [keywords, List.mem_cons, List.not_mem_nil, or_false] at listed
  rcases listed with rfl | rfl | rfl | rfl | rfl | rfl | rfl <;> exact ⟨_, rfl, nofun⟩

end Pattern

end LineLisp
