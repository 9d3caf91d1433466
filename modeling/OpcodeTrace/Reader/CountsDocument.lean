import OpcodeTrace.Json.Text
import OpcodeTrace.Reader.Basic
import OpcodeTrace.Text.Decimal

/-! Counts as a JSON document, laid out over several lines. -/

namespace OpcodeTrace.Reader

def documentEntry (count : Count) : String :=
  "  \x7b\n" ++
  "    \"opcode\": " ++ Decimal.render count.opcode.value.toNat ++ ",\n" ++
  "    \"name\": " ++ Json.quote count.opcode.label ++ ",\n" ++
  "    \"count\": " ++ Decimal.render count.count.toNat ++ "\n" ++
  "  \x7d"

def countsDocument : List Count → String
  | [] => "[]"
  | counts => "[\n" ++ String.intercalate ",\n" (counts.map documentEntry) ++ "\n]"

end OpcodeTrace.Reader
