import SourceTrace.Compose.Resolver

/-!
# Following one position through the layers

The source position of a generated one, found by asking the document of every layer in turn. No
document is built; a composed document must agree with what is found here.
-/
namespace SourceTrace.Layered

/-- Follows a position of a document in directory `base` as far as the resolver has documents.
`seen` holds the keys of the sources passed so far, and at most `fuel` more are passed. -/
def follow {σ : Type} (resolver : Resolver σ) : Nat → List String → Option Path →
    SourcePosition → σ → Except Error (Option (SourcePosition × Option Path)) × σ
  | 0, _, _, position, memory => (.error (.cycle position.source), memory)
  | fuel + 1, seen, base, position, memory =>
    let key := Source.key base position.source
    if seen.contains key then (.error (.cycle position.source), memory)
    else
      match resolver.answer position.source base memory with
      | (.error cause, memory) => (.error (.brokenChain position.source cause), memory)
      | (.ok none, memory) => (.ok (some (position, base)), memory)
      | (.ok (some inner), memory) =>
        match inner.lookup? position.line position.column with
        | none => (.ok none, memory)
        | some next =>
          let next := { next with name := next.name.or position.name }
          follow resolver fuel (key :: seen) inner.baseDir next memory

/-- The source position of a generated one, with its source seen from the outer document. -/
def resolve {σ : Type} (resolver : Resolver σ) (outer : Document) (line column : Nat) (memory : σ) :
    Except Error (Option SourcePosition) × σ :=
  match outer.lookup? line column with
  | none => (.ok none, memory)
  | some position =>
    match follow resolver (resolver.bound memory + 1) [] outer.baseDir position memory with
    | (.error cause, memory) => (.error cause, memory)
    | (.ok none, memory) => (.ok none, memory)
    | (.ok (some (position, base)), memory) =>
      let source := Source.rebase position.source base outer.baseDir
      (.ok (some { position with source }), memory)

end SourceTrace.Layered
