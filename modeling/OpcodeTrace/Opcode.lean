/-! The operations of the recorded interpreter, and how one byte of a trace names one of them. The
terminator `RET` is the last operation of the table. It fills two bytes: a reserved byte outside
the table and an operand that nothing interprets. -/

namespace OpcodeTrace

/-- A decoded byte: the value of an operation, or a value past the table that names nothing. -/
structure Opcode where
  value : UInt8
deriving DecidableEq, Repr, Ord

namespace Opcode

def names : Array String := #[
  "LOAD", "T0LVL", "T1LVL", "READ_INTERNAL", "GENSYM", "VALUEPRINT", "EVAL", "REAL_EVAL",
  "E0ARGS", "E1ARGS", "APPLY", "REAL_APPLY", "LAMBDA", "LAMBDA1", "MKCLOSURE", "QUOTE", "DEF0",
  "DEF1", "DEFP", "BEGIN", "IF0", "IF1", "SET0", "SET1", "LET0", "LET1", "LET2", "LET0AST",
  "LET1AST", "LET2AST", "LET0REC", "LET1REC", "LET2REC", "COND0", "COND1", "DELAY", "AND0",
  "AND1", "OR0", "OR1", "C0STREAM", "C1STREAM", "MACRO0", "MACRO1", "CASE0", "CASE1", "CASE2",
  "PEVAL", "PAPPLY", "CONTINUATION", "INEX2EX", "EXP", "LOG", "SIN", "COS", "TAN", "ASIN",
  "ACOS", "ATAN", "SQRT", "EXPT", "FLOOR", "CEILING", "TRUNCATE", "ROUND", "ADD", "SUB", "MUL",
  "DIV", "INTDIV", "REM", "MOD", "CAR", "CDR", "CONS", "SETCAR", "SETCDR", "CHAR2INT",
  "INT2CHAR", "CHARUPCASE", "CHARDNCASE", "SYM2STR", "ATOM2STR", "STR2SYM", "STR2ATOM",
  "MKSTRING", "STRLEN", "STRREF", "STRSET", "STRAPPEND", "SUBSTR", "VECTOR", "MKVECTOR",
  "VECLEN", "VECREF", "VECSET", "NOT", "BOOLP", "EOFOBJP", "NULLP", "NUMEQ", "LESS", "GRE",
  "LEQ", "GEQ", "SYMBOLP", "NUMBERP", "STRINGP", "INTEGERP", "REALP", "CHARP", "CHARAP",
  "CHARNP", "CHARWP", "CHARUP", "CHARLP", "PORTP", "INPORTP", "OUTPORTP", "PROCP", "PAIRP",
  "LISTP", "ENVP", "VECTORP", "EQ", "EQV", "FORCE", "SAVE_FORCED", "WRITE", "WRITE_CHAR",
  "DISPLAY", "NEWLINE", "ERR0", "ERR1", "REVERSE", "LIST_STAR", "APPEND", "PUT", "GET", "QUIT",
  "GC", "GCVERB", "NEWSEGMENT", "OBLIST", "CURR_INPORT", "CURR_OUTPORT", "OPEN_INFILE",
  "OPEN_OUTFILE", "OPEN_INOUTFILE", "OPEN_INSTRING", "OPEN_INOUTSTRING", "OPEN_OUTSTRING",
  "GET_OUTSTRING", "CLOSE_INPORT", "CLOSE_OUTPORT", "INT_ENV", "CURR_ENV", "READ", "READ_CHAR",
  "PEEK_CHAR", "CHAR_READY", "SET_INPORT", "SET_OUTPORT", "RDSEXPR", "RDLIST", "RDDOT",
  "RDQUOTE", "RDQQUOTE", "RDQQUOTEVEC", "RDUNQUOTE", "RDUQTSP", "RDVEC", "P0LIST", "P1LIST",
  "PVECFROM", "LIST_LENGTH", "ASSQ", "GET_CLOSURE", "CLOSUREP", "MACROP", "RET"]

def tableSize : Nat := 181

set_option maxRecDepth 4096 in
theorem size_names : names.size = tableSize := rfl

def terminator : Opcode := ⟨180⟩

example : terminator.value.toNat + 1 = tableSize := rfl

def sentinel : UInt8 := 254

/-- What a byte of a trace names. Only the sentinel changes its value. -/
def decode (raw : UInt8) : Opcode :=
  if raw = sentinel then terminator else ⟨raw⟩

def isNamed (opcode : Opcode) : Bool :=
  opcode.value.toNat < tableSize

def isTerminator (opcode : Opcode) : Bool :=
  opcode = terminator

def isOrdinary (opcode : Opcode) : Bool :=
  opcode.value < terminator.value

/-- The number of bytes that an instruction starting with this opcode fills. A value past the
table has no size; it is not an instruction of size zero. -/
def span? (opcode : Opcode) : Option UInt64 :=
  if opcode.isOrdinary then some 1
  else if opcode.isTerminator then some 2
  else none

def name? (opcode : Opcode) : Option String :=
  names[opcode.value.toNat]?

def missingName : String := "!ERR!"

def label (opcode : Opcode) : String :=
  opcode.name?.getD missingName

theorem span?_eq_one_or_two {opcode : Opcode} {span : UInt64} (spans : opcode.span? = some span) :
    span = 1 ∨ span = 2 := by
  unfold span? at spans
  split at spans
  · exact .inl (Option.some.inj spans).symm
  · split at spans
    · exact .inr (Option.some.inj spans).symm
    · cases spans

end Opcode

end OpcodeTrace
