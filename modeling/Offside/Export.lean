import Offside.Json
import Offside.Parsed

namespace Offside

/-!
# Export of trees and diagnostics

Trees and diagnostics as JSON documents.  A node gives its kind, its span, its
children and, by name, the positions of children; a token gives its kind, its text
and its span.  Only trivia is left out.  Synthetic tokens are exported like all
others, with an empty text.
-/

def Span.toJson (span : Span) : Json := .array [.number span.start, .number span.stop]

def Token.toJson (token : Token) : Json :=
  .ofEntries
    [("span", token.span.toJson), ("text", .string token.text),
     ("token", .string token.kind.name)]

/-- The names of children with the positions they refer to. -/
def fieldsToJson (fields : List (FieldName × Nat)) : Json :=
  .ofEntries (fields.map fun entry => (entry.1.label, .number entry.2))

mutual

def Node.toJson : Node → Json
  | .mk kind span children fields =>
    .ofEntries
      [("children", .array (Element.listToJson children)),
       ("fields", fieldsToJson fields),
       ("kind", .string kind.name),
       ("span", span.toJson)]

def Element.listToJson : List Element → List Json
  | [] => []
  | .node inner :: rest => inner.toJson :: Element.listToJson rest
  | .token leaf :: rest => leaf.toJson :: Element.listToJson rest

end

def Diagnostic.entries (diagnostic : Diagnostic) : List (String × Json) :=
  [("code", .string diagnostic.fault.code),
   ("hints", .ofStrings diagnostic.hints),
   ("message", .string diagnostic.message),
   ("severity", .string diagnostic.severity.name),
   ("span", diagnostic.span.toJson)]

def Diagnostic.toJson (diagnostic : Diagnostic) : Json := .ofEntries diagnostic.entries

def diagnosticsToJson (diagnostics : List Diagnostic) : Json :=
  .array (diagnostics.map Diagnostic.toJson)

def Parsed.toJson (parsed : Parsed) : Json :=
  .ofEntries
    [("diagnostics", diagnosticsToJson parsed.diagnostics), ("tree", parsed.root.toJson)]

/-! ## What a report shows of a diagnostic -/

def Diagnostic.toDetailedJson (diagnostic : Diagnostic) : Json :=
  .ofEntries
    (diagnostic.entries ++
      [("display", .string diagnostic.message),
       ("help", .ofString? diagnostic.help?),
       ("is_lex", .bool diagnostic.fault.isLexical),
       ("label", .string diagnostic.fault.label),
       ("label_at",
         .array [.number diagnostic.span.start, .number diagnostic.span.length])])

end Offside
