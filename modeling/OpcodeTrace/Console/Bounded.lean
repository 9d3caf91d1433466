import OpcodeTrace.Console.Basic

/-! A stream that keeps what it has taken, and may have room for so many bytes only. -/

namespace OpcodeTrace

structure BoundedStream where
  taken : Array UInt8 := #[]
  /-- The number of bytes still to take, unless there is no limit. -/
  room : Option Nat := none
  refusesFlush : Bool := false

namespace BoundedStream

def write (stream : BoundedStream) (text : String) : BoundedStream × Option Failure :=
  let bytes := text.toUTF8.data
  match stream.room with
  | none => ({ stream with taken := stream.taken ++ bytes }, none)
  | some room =>
      ({ stream with
          taken := stream.taken ++ bytes.extract 0 room
          room := some (room - bytes.size) },
        if bytes.size ≤ room then none else some .full)

def flush (stream : BoundedStream) : BoundedStream × Option Failure :=
  (stream, if stream.refusesFlush then some .flushRefused else none)

def emptied (stream : BoundedStream) : BoundedStream :=
  { stream with taken := #[] }

end BoundedStream

structure BoundedConsole where
  out : BoundedStream := {}
  err : BoundedStream := {}
  log : Array Log.Entry := #[]

instance : Console BoundedConsole where
  print console text :=
    let (out, failure) := console.out.write text
    ({ console with out }, failure)
  flush console :=
    let (out, failure) := console.out.flush
    ({ console with out }, failure)
  complain console text :=
    let (err, failure) := console.err.write text
    ({ console with err }, failure)
  record console entry := { console with log := console.log.push entry }

end OpcodeTrace
