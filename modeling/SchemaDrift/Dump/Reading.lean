import SchemaDrift.Dump.Block
import SchemaDrift.Dump.Line

namespace SchemaDrift.Dump

/-- Something of a dump that no table holds. -/
inductive Notice where
  /-- A block without a quoted name; blocks count from zero. -/
  | unnamedBlock (index : Nat)
  /-- A line of no known shape; the lines of a block count from one. -/
  | skippedLine (table : Text) (number : Nat) (line : Text)
  deriving DecidableEq, Repr

namespace Notice

/-- Whether a whole table is lost, and not only one of its lines. -/
def dropsTable : Notice → Bool
  | .unnamedBlock _ => true
  | .skippedLine .. => false

def message : Notice → Text
  | .unnamedBlock index => "CREATE TABLE block #" ++ Text.ofNat index ++ " has no table name"
  | .skippedLine table number line =>
    "skipped line " ++ Text.ofNat number ++ " of table `" ++ table ++ "`: " ++ line.trim

end Notice

/-- The tables of a dump and all that was dropped from it, each in the order of the text. -/
structure Reading where
  tables : List Table := []
  notices : List Notice := []
  deriving DecidableEq, Repr

/-- The lines of a block that are of no known shape, with their numbers. -/
def skippedLines (table block : Text) : List Notice :=
  (block.lines.zipIdx 1).filterMap fun (line, number) =>
    if Line.read line = .unknown then some (.skippedLine table number line) else none

/-- The table of that name which a block declares. -/
def tableOf (name block : Text) : Table :=
  Table.build name (.content block :: block.lines.filterMap fun line => (Line.read line).step?)

/-- Reads the block of that index. -/
def readBlock (index : Nat) (block : Text) : Reading :=
  match tableName? block with
  | none => { notices := [.unnamedBlock index] }
  | some name => { tables := [tableOf name block], notices := skippedLines name block }

/-- Reads a dump, block by block. -/
def read (t : Text) : Reading :=
  let readings := (blocks t).zipIdx.map fun (block, index) => readBlock index block
  { tables := readings.flatMap Reading.tables, notices := readings.flatMap Reading.notices }

/-- The tables of a dump. -/
def tables (t : Text) : List Table := (read t).tables

end SchemaDrift.Dump
