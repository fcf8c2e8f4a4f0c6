import CallContract.Journal.Layout
import CallContract.Number.Numeral
import CallContract.Text.UpperCase

/-!
# The journal

Contracts, families of functions and the configuration report what they do to one journal. It
has a level, below which records are dropped, and handlers, which write each record to a stream
in a layout of their own, if they can. Level 0 means that the journal has no level of its own and
that of the root counts, which lets warnings through.
-/

namespace CallContract

/-- The level that counts where none is set. -/
def rootLevel : Int := 30

/-- The numbers of the levels with a name. -/
def levelNames : List (String × Int) :=
  [("CRITICAL", 50), ("FATAL", 50), ("ERROR", 40), ("WARN", 30), ("WARNING", 30), ("INFO", 20),
    ("DEBUG", 10), ("NOTSET", 0)]

/-- A handler writes records to a stream. -/
structure Handler where
  stream : String
  layout : Layout
  deriving Inhabited

/-- The journal: its level, its handlers, what the streams hold and have not yet been read, and
the records that passed the level. -/
structure Journal where
  level : Numeral
  handlers : List Handler
  streams : List (String × String)
  records : List Record
  deriving Inhabited

namespace Journal

/-- The source of all records. -/
def packageName : String := "contractfn"

/-- A journal that lets all records through and has no handlers. -/
def start : Journal := ⟨.whole 10, [], [], []⟩

/-- The level that counts. -/
def effectiveLevel (j : Journal) : Numeral :=
  if j.level.isNonzero then j.level else .whole rootLevel

/-- Whether records pass the level. -/
def isOpen (j : Journal) : Bool := !(Numeral.whole recordLevel).less j.effectiveLevel

/-- The streams with a text added to one of them. -/
def append (streams : List (String × String)) (name text : String) : List (String × String) :=
  if streams.any (·.1 == name) then
    streams.map fun (n, t) => if n == name then (n, t ++ text) else (n, t)
  else streams ++ [(name, text)]

/-- The streams after a handler has written a record. -/
def write (r : Record) (streams : List (String × String)) (h : Handler) :
    List (String × String) :=
  match h.layout.render r with
  | some line => append streams h.stream (line ++ "\n")
  | none => streams

/-- The journal after a record. -/
def add (j : Journal) (r : Record) : Journal :=
  if j.isOpen then
    { j with records := j.records ++ [r], streams := j.handlers.foldl (write r) j.streams }
  else j

/-- What a stream holds, and the journal with that stream emptied. -/
def drain (j : Journal) (name : String) : String × Journal :=
  ((j.streams.lookup name).getD "", { j with streams := j.streams.filter (·.1 != name) })

/-- The effective level of a logger by its name: those of the package and below it share the
level of the journal, all others have that of the root. -/
def levelOf (j : Journal) (name : String) : Numeral :=
  if name = packageName ∨ (packageName ++ ".").isPrefixOf name then j.effectiveLevel
  else .whole rootLevel

end Journal

end CallContract
