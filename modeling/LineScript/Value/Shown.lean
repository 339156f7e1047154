import LineScript.Value

/-!
The written forms of values. `inspect` is the form inside a collection, where texts are quoted;
`display` is the form that is printed. A collection that is met again inside itself is written as
dots.
-/

namespace LineScript.Value

/-- The written form of an integer, which has a limited length. -/
def showInt (i : Int) : Except Fault Text :=
  match Numeral.write? i with
  | some t => .ok t
  | none => .error .integerTooLong

/-- The form of a value inside a collection. `path` holds the collections that are being written, so
no more than the heap's size of them; `depth` counts how many more may follow. -/
def inspectWithin (heap : Heap) : Nat → List Value → Value → Except Fault Text
  | _, _, null => .ok "None"
  | _, _, bool b => .ok (if b then "True" else "False")
  | _, _, int i => showInt i
  | _, _, text t => .ok (Text.quoted t)
  | _, _, object address =>
      .ok (Text.join ["<TyrtInstance: ", (heap.object address).className, ">"])
  | _, _, fault _ cause => .ok (Text.join [cause.kind, "(", Text.quoted cause.message, ")"])
  | 0, _, list _ => .ok "[...]"
  | depth + 1, path, list address =>
      if list address ∈ path then .ok "[...]"
      else do
        let parts ← (heap.items address).mapM
          (inspectWithin heap depth (list address :: path))
        .ok (Text.join ["[", Text.joinWith ", " parts, "]"])
  | 0, _, dict _ => .ok "\x7b...\x7d"
  | depth + 1, path, dict address =>
      if dict address ∈ path then .ok "\x7b...\x7d"
      else do
        let parts ← (heap.entries address).mapM fun entry => do
          let key ← inspectWithin heap depth (dict address :: path) entry.1
          let value ← inspectWithin heap depth (dict address :: path) entry.2
          .ok (Text.join [key, ": ", value])
        .ok (Text.join ["\x7b", Text.joinWith ", " parts, "\x7d"])

def inspect (heap : Heap) (v : Value) : Except Fault Text :=
  inspectWithin heap (heap.size + 1) [] v

def display (heap : Heap) : Value → Except Fault Text
  | text t => .ok t
  | object address =>
      let it := heap.object address
      .ok (Text.join ["Objeto ", it.className, " \x7b", Text.joinWith ", " (it.fields.map (·.1)),
        "\x7d"])
  | fault _ cause => .ok cause.message
  | v => inspect heap v

end LineScript.Value
