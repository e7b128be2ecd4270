import SchemaAtlas.Number.Numeral

/-! # Errors of marked up text -/
namespace SchemaAtlas.Terminal

inductive MarkupError where
  /-- A tag closes a style that is not open. -/
  | notOpen (tag : String)
  | badParameters (parameters : String)
  | badColor (e : Number.NumeralError)
  deriving DecidableEq, Repr

def MarkupError.message : MarkupError → String
  | .notOpen tag => "nothing is open that " ++ tag ++ " could close"
  | .badParameters parameters => "cannot read the parameters " ++ parameters
  | .badColor e => e.message

end SchemaAtlas.Terminal
