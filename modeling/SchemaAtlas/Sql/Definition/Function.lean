import SchemaAtlas.Sql.Definition.Lexeme

/-! # Functions in a definition

The functions that an expression can call, with how many arguments, and of which kind they are.
A function that is not listed can be called with any arguments.
-/
namespace SchemaAtlas.Sql.Definition

inductive FunctionKind where
  | scalar
  /-- Takes the values of many rows at once. -/
  | aggregate
  /-- Can be taken only over a window. -/
  | window
  /-- Of no use in a definition, but known. -/
  | hidden
  deriving DecidableEq, Repr

/-- How some functions are called: the least and the most arguments, their kind, and whether the
answer can change while the arguments stay the same. -/
structure FunctionForm where
  least : Nat
  most? : Option Nat
  kind : FunctionKind
  varies : Bool
  deriving DecidableEq, Repr

def functionForms : List (FunctionForm × String) :=
  [(⟨1, some 1, .scalar, false⟩, "abs acos acosh asin asinh atan atanh ceil ceiling cos cosh " ++
      "degrees exp floor hex json json_quote json_valid length likely ln log10 log2 lower " ++
      "quote radians sign sin sinh soundex sqrt subtype tan tanh trunc typeof unicode " ++
      "unlikely upper zeroblob"),
    (⟨0, none, .scalar, false⟩, "char date datetime format json_array json_extract " ++
      "json_insert json_object json_remove json_replace json_set julianday printf strftime " ++
      "time unixepoch"),
    (⟨2, some 2, .scalar, false⟩, "-> ->> atan2 glob ifnull instr json_patch likelihood mod " ++
      "nullif pow power regexp sqlite_log"),
    (⟨1, some 2, .scalar, false⟩, "json_array_length json_type log ltrim round rtrim trim"),
    (⟨3, some 3, .scalar, false⟩, "iif replace"),
    (⟨2, some 3, .scalar, false⟩, "like substr substring"),
    (⟨2, none, .scalar, false⟩, "coalesce max min"),
    (⟨0, some 0, .scalar, false⟩, "fts5_source_id pi"),
    (⟨0, some 0, .scalar, true⟩, "changes current_date current_time current_timestamp " ++
      "last_insert_rowid random sqlite_source_id sqlite_version total_changes"),
    (⟨1, some 1, .scalar, true⟩, "fts5 offsets optimize randomblob rtreedepth " ++
      "sqlite_compileoption_get sqlite_compileoption_used"),
    (⟨0, none, .scalar, true⟩, "bm25 highlight rtreecheck snippet"),
    (⟨1, some 2, .scalar, true⟩, "fts3_tokenizer load_extension matchinfo"),
    (⟨2, some 2, .scalar, true⟩, "match rtreenode"),
    (⟨1, some 1, .aggregate, true⟩, "avg json_group_array max min sum total"),
    (⟨2, some 2, .aggregate, true⟩, "json_group_object"),
    (⟨1, some 2, .aggregate, true⟩, "group_concat"),
    (⟨0, some 1, .aggregate, true⟩, "count"),
    (⟨0, some 0, .window, true⟩, "cume_dist dense_rank percent_rank rank row_number"),
    (⟨1, some 1, .window, true⟩, "first_value last_value ntile"),
    (⟨1, some 3, .window, true⟩, "lag lead"),
    (⟨2, some 2, .window, true⟩, "nth_value"),
    (⟨1, some 1, .hidden, false⟩, "affinity"),
    (⟨2, some 2, .hidden, false⟩, "expr_compare expr_implies_expr implies_nonnull_row " ++
      "sqlite_rename_quotefix"),
    (⟨3, some 3, .hidden, false⟩, "sqlite_drop_column"),
    (⟨7, some 7, .hidden, false⟩, "sqlite_rename_table sqlite_rename_test"),
    (⟨9, some 9, .hidden, false⟩, "sqlite_rename_column")]

def FunctionForm.takes (f : FunctionForm) (n : Nat) : Bool :=
  f.least ≤ n && f.most?.all (n ≤ ·)

def formsOf (function : List Char) : List FunctionForm :=
  let name := function.map Char.toLower
  functionForms.filterMap fun (form, names) =>
    if (names.splitOn " ").contains (.ofList name) then some form else none

end SchemaAtlas.Sql.Definition
