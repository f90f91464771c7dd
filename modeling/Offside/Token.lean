import Offside.Token.Kind
import Offside.Text.Span

namespace Offside

/-!
# Tokens

A token is a kind together with its place in the source and the text in front
of it that carries no syntax.  Such text, the trivia, always belongs to the
token that follows it; what stands at the end of a source belongs to the token
that marks its end.
-/

/-- The kinds of text that carry no syntax. -/
inductive TriviaKind
  | whitespace
  | newline
  | lineComment
  | blockComment
deriving DecidableEq, Repr

def TriviaKind.name : TriviaKind → String
  | whitespace => "Whitespace"
  | newline => "Newline"
  | lineComment => "LineComment"
  | blockComment => "BlockComment"

/-- A stretch of source text that carries no syntax. -/
structure Trivia where
  kind : TriviaKind
  span : Span
deriving DecidableEq, Repr

/-- A token in its place. -/
structure Token where
  kind : TokenKind
  span : Span
  /-- The trivia between the previous token and this one. -/
  leading : List Trivia
deriving DecidableEq, Repr

namespace Token

def bare (kind : TokenKind) (span : Span) : Token := ⟨kind, span, []⟩

def endOfFile (offset : Nat) : Token := bare .endOfFile (.empty offset)

instance : Inhabited Token := ⟨endOfFile 0⟩

def text (token : Token) : String := token.kind.text

/-- Whether a line break separates the token from the one before. -/
def hasNewlineBefore (token : Token) : Bool :=
  token.leading.any fun trivia => trivia.kind == .newline

/-- Whether any trivia separates the token from the one before. -/
def hasTriviaBefore (token : Token) : Bool := !token.leading.isEmpty

end Token
end Offside
