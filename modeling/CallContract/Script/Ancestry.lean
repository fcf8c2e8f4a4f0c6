/-!
# Ancestry

The sorts of errors, schemas and modes stand in families, so that one can catch or ask for a whole
family at once. A sort belongs to all families in its line, from itself to the family of everything.
-/

namespace CallContract

namespace Ancestry

/-- The line of errors in general. -/
def errors : List String := ["Exception", "BaseException", "object"]

/-- The line of the errors of contracts. -/
def contractErrors (between : List String) : List String := "ContractError" :: between ++ errors

/-- The line of the errors of configurations. -/
def configErrors : List String := "ConfigError" :: errors

/-- The line of words that are also texts. -/
def words : List String := ["str", "Enum", "object"]

/-- The line of schemas. -/
def schemas : List String := ["Schema", "object"]

/-- The lines above each sort. -/
def table : List (String × List String) :=
  [("ContractError", errors),
    ("ContractDefinitionError", contractErrors ["TypeError"]),
    ("ValidationError", contractErrors ["ValueError"]),
    ("ConfigError", errors),
    ("ConfigNotFoundError", configErrors),
    ("ConfigParseError", configErrors),
    ("ConfigValidationError", configErrors),
    ("ValidationMode", words),
    ("Boundary", words),
    ("Schema", ["object"]),
    ("Primitive", schemas),
    ("AnySchema", schemas),
    ("Refined", schemas),
    ("TupleSchema", schemas),
    ("ArraySchema", schemas),
    ("FunctionSchema", schemas),
    ("SafeParseResult", ["object"]),
    ("FunctionContract", ["object"]),
    ("CheckedFunction", ["object"]),
    ("GenericFn", ["Generic", "object"]),
    ("ContractConfig", ["BaseModel", "object"])]

/-- The families that a sort belongs to, itself first. -/
def of? (name : String) : Option (List String) := (table.lookup name).map (name :: ·)

end Ancestry

end CallContract
