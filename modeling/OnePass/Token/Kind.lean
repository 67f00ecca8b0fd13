/-!
# Kinds of tokens

The kinds are the terminals of the grammar and two kinds that no rule accepts: the end of the text
and the symbol that belongs to no token. Keywords and symbols have one spelling each.
-/
namespace OnePass

inductive Kind where
  | beginWord | endWord | ifWord | thenWord | elseWord | whileWord | loopWord | callWord | doWord
  | untilWord | forWord
  | semicolon | comma | leftParenthesis | rightParenthesis | becomes
  | greaterThan | greaterEqual | equal | notEqual | lessThan | lessEqual
  | plus | minus | times | divide
  | identifier | numberConstant | stringConstant
  | endOfFile | illegalSymbol
  deriving DecidableEq, Repr

namespace Kind

def all : List Kind :=
  [.beginWord, .endWord, .ifWord, .thenWord, .elseWord, .whileWord, .loopWord, .callWord, .doWord,
   .untilWord, .forWord, .semicolon, .comma, .leftParenthesis, .rightParenthesis, .becomes,
   .greaterThan, .greaterEqual, .equal, .notEqual, .lessThan, .lessEqual, .plus, .minus, .times,
   .divide, .identifier, .numberConstant, .stringConstant, .endOfFile, .illegalSymbol]

theorem mem_all (kind : Kind) : kind ∈ all := by
  cases kind <;> decide

def keywords : List (String × Kind) :=
  [("begin", .beginWord), ("end", .endWord), ("if", .ifWord), ("then", .thenWord),
   ("else", .elseWord), ("while", .whileWord), ("loop", .loopWord), ("call", .callWord),
   ("do", .doWord), ("until", .untilWord), ("for", .forWord)]

def symbols : List (String × Kind) :=
  [(";", .semicolon), (",", .comma), ("(", .leftParenthesis), (")", .rightParenthesis),
   (":=", .becomes), (">", .greaterThan), (">=", .greaterEqual), ("=", .equal), ("/=", .notEqual),
   ("<", .lessThan), ("<=", .lessEqual), ("+", .plus), ("-", .minus), ("*", .times),
   ("/", .divide)]

def keyword? (word : String) : Option Kind :=
  keywords.lookup word

def symbol? (spelling : String) : Option Kind :=
  symbols.lookup spelling

/-- The one spelling of a keyword or symbol. -/
def spelling? (kind : Kind) : Option String :=
  ((keywords ++ symbols).find? (·.2 = kind)).map (·.1)

/-- How a diagnostic names the kind: a fixed spelling stands between single quotes. -/
def display : Kind → String
  | .identifier => "identifier"
  | .numberConstant => "numberConstant"
  | .stringConstant => "stringConstant"
  | .endOfFile => "end of file"
  | .illegalSymbol => "illegal symbol"
  | kind => "'" ++ kind.spelling?.getD "" ++ "'"

/-- The name of the kind in a summary of a token. -/
def tag : Kind → String
  | .beginWord => "BEGIN"
  | .endWord => "END"
  | .ifWord => "IF"
  | .thenWord => "THEN"
  | .elseWord => "ELSE"
  | .whileWord => "WHILE"
  | .loopWord => "LOOP"
  | .callWord => "CALL"
  | .doWord => "DO"
  | .untilWord => "UNTIL"
  | .forWord => "FOR"
  | .semicolon => "SEMICOLON"
  | .comma => "COMMA"
  | .leftParenthesis => "LEFT_PARENTHESIS"
  | .rightParenthesis => "RIGHT_PARENTHESIS"
  | .becomes => "BECOMES"
  | .greaterThan => "GREATER_THAN"
  | .greaterEqual => "GREATER_EQUAL"
  | .equal => "EQUAL"
  | .notEqual => "NOT_EQUAL"
  | .lessThan => "LESS_THAN"
  | .lessEqual => "LESS_EQUAL"
  | .plus => "PLUS"
  | .minus => "MINUS"
  | .times => "TIMES"
  | .divide => "DIVIDE"
  | .identifier => "IDENTIFIER"
  | .numberConstant => "NUMBER_CONSTANT"
  | .stringConstant => "STRING_CONSTANT"
  | .endOfFile => "END_OF_FILE"
  | .illegalSymbol => "ILLEGAL_SYMBOL"

def relational : List Kind :=
  [.greaterThan, .greaterEqual, .equal, .notEqual, .lessThan, .lessEqual]

def adding : List Kind :=
  [.plus, .minus]

def multiplying : List Kind :=
  [.times, .divide]

/-- The kinds that open a statement. -/
def starters : List Kind :=
  [.identifier, .ifWord, .whileWord, .callWord, .doWord, .forWord]

private theorem spelling?_of_mem {entry : String × Kind} (h : entry ∈ keywords ++ symbols) :
    entry.2.spelling? = some entry.1 := by
  revert entry
  decide

theorem ne_of_spelling?_eq_none {entry : String × Kind} (h : entry ∈ keywords ++ symbols)
    {kind : Kind} (hkind : kind.spelling? = none) : entry.2 ≠ kind := by
  rintro rfl
  rw [spelling?_of_mem h] at hkind
  cases hkind

theorem ne_endOfFile_of_relational {kind : Kind} (h : kind ∈ relational) : kind ≠ .endOfFile := by
  revert kind
  decide

theorem ne_endOfFile_of_adding {kind : Kind} (h : kind ∈ adding) : kind ≠ .endOfFile := by
  revert kind
  decide

theorem ne_endOfFile_of_multiplying {kind : Kind} (h : kind ∈ multiplying) :
    kind ≠ .endOfFile := by
  revert kind
  decide

end Kind

end OnePass
