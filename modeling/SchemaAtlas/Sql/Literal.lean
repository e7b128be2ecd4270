/-! # Literals

Text between quotes. In writing, backslashes and single quotes get a backslash before them.
In reading, a backslash takes any character but a line feed with it, and only the escapes of
the backslash and of both quotes are undone.
-/
namespace SchemaAtlas.Sql

def quoteLiteral (s : List Char) : List Char :=
  s.flatMap fun c => if c = '\\' ∨ c = '\'' then ['\\', c] else [c]

/-- The raw content of a literal up to its closing quote `q`, and the text after it. -/
def literalBody? (q : Char) : List Char → Option (List Char × List Char)
  | [] => none
  | '\\' :: c :: rest =>
    if c = '\n' then none
    else (literalBody? q rest).map fun (body, after) => ('\\' :: c :: body, after)
  | c :: rest =>
    if c = q then some ([], rest)
    else if c = '\\' then none
    else (literalBody? q rest).map fun (body, after) => (c :: body, after)

def literal? : List Char → Option (List Char × List Char)
  | '\'' :: rest => literalBody? '\'' rest
  | '"' :: rest => literalBody? '"' rest
  | _ => none

/-- Undoes the escapes of backslashes and quotes. -/
def unescape : List Char → List Char
  | '\\' :: c :: rest =>
    if c = '\\' ∨ c = '\'' ∨ c = '"' then c :: unescape rest else '\\' :: unescape (c :: rest)
  | c :: rest => c :: unescape rest
  | [] => []

@[simp] theorem quoteLiteral_nil : quoteLiteral [] = [] := rfl

theorem quoteLiteral_cons (c : Char) (s : List Char) :
    quoteLiteral (c :: s) =
      (if c = '\\' ∨ c = '\'' then ['\\', c] else [c]) ++ quoteLiteral s := by
  simp [quoteLiteral]

theorem quoteLiteral_append (s t : List Char) :
    quoteLiteral (s ++ t) = quoteLiteral s ++ quoteLiteral t := by
  simp [quoteLiteral]

end SchemaAtlas.Sql
