import GodotAtlas.Script.Diagnosis
import GodotAtlas.Script.Lowering
import GodotAtlas.Script.Parser
import GodotAtlas.Script.Recovery.Reading

namespace GodotAtlas.Script

def parse : Parser := fun source =>
  match Reader.read? source.toList with
  | some tree => .ok (Item.ofBlock tree)
  | none => .error (Recovery.recover source.toList).diagnose

end GodotAtlas.Script
