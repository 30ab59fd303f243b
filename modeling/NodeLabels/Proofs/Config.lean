import NodeLabels.Config.Document
/-!
# The configuration that says nothing

A file that holds an empty mapping gives the default configuration (`Config.ofFile_emptyMapping`).
The text is followed through the scanner, from one token to the next, and then through the reader
of documents.
-/

namespace NodeLabels

namespace Yaml

/-- The key that an opening brace at the start of a text may turn out to be. -/
def braceKey : PossibleKey :=
  { required := false, position := 0, index := 0, line := 0, column := 0 }

def beforeBraces : Scanner := { cursor := { rest := ['\x7b', '\x7d'] } }

def betweenBraces : Scanner where
  cursor := { rest := ['\x7d'], index := 1, column := 1 }
  tokens := #[.flowMappingStart]
  outerKeys := [some braceKey]

def behindBraces : Scanner where
  cursor := { rest := [], index := 2, column := 2 }
  tokens := #[.flowMappingStart, .flowMappingEnd]
  keyAllowed := false
  possibleKey := some braceKey

theorem token?_beforeBraces : beforeBraces.token? = some betweenBraces := rfl

theorem token?_betweenBraces : betweenBraces.token? = some behindBraces := rfl

theorem run?_behindBraces :
    behindBraces.run? 1 = some { behindBraces with possibleKey := none } := rfl

theorem run?_betweenBraces :
    betweenBraces.run? 2 = some { behindBraces with possibleKey := none } := by
  -- One token at a time: evaluated at a stretch, the scanner is copied at every field.
  have hstep : betweenBraces.run? 2 = betweenBraces.token? >>= Scanner.run? 1 := rfl
  rw [hstep, token?_betweenBraces]
  exact run?_behindBraces

theorem run?_beforeBraces :
    beforeBraces.run? 3 = some { behindBraces with possibleKey := none } := by
  have hstep : beforeBraces.run? 3 = beforeBraces.token? >>= Scanner.run? 2 := rfl
  rw [hstep, token?_beforeBraces]
  exact run?_betweenBraces

theorem scan?_braces :
    Token.scan? ['\x7b', '\x7d'] = some [.flowMappingStart, .flowMappingEnd] := by
  have hscan : Token.scan? ['\x7b', '\x7d'] =
      (beforeBraces.run? 3).map fun s => s.tokens.toList := rfl
  rw [hscan, run?_beforeBraces]
  rfl

theorem document_braces :
    ((Node.document 16).run { tokens := [.flowMappingStart, .flowMappingEnd] }).map Prod.fst =
      some (some (.mapping [])) := rfl

theorem read?_braces : Node.read? "\x7b\x7d" = some (some (.mapping [])) := by
  obtain ⟨⟨n, left⟩, hdocument, hn⟩ := Option.map_eq_some_iff.1 document_braces
  have htext : "\x7b\x7d".toList = ['\x7b', '\x7d'] := rfl
  unfold Node.read?
  rw [htext, scan?_braces]
  dsimp only [Option.bind_eq_bind, Option.bind_some, List.length_cons, List.length_nil]
  rw [hdocument]
  exact congrArg (fun n => some (n.map Node.unfolded)) hn

end Yaml

namespace Config

theorem ofNode?_emptyMapping : ofNode? (.mapping []) = some default := rfl

theorem parse_braces : parse "\x7b\x7d" = .ok default := by
  unfold parse
  rw [Yaml.read?_braces]
  dsimp only
  rw [ofNode?_emptyMapping]

theorem ofFile_emptyMapping (path : String) :
    ofFile path (some [0x7B, 0x7D]) = .ok default := by
  have hdecode : Text.decode? [0x7B, 0x7D] = some ['\x7b', '\x7d'] := by decide +kernel
  unfold ofFile
  rw [Option.bind_eq_bind, Option.bind_some, hdecode]
  exact parse_braces

end Config

end NodeLabels
