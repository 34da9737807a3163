import TrafficControl.Proofs.PayloadReading
import TrafficControl.Proofs.RawOptions

/-!
# Errors of codecs

A codec may fail by any error, also by one that already stands under names of kinds. The number of
an error is that of the innermost one, so no name that is put around it changes the number
(`Error.code_under`).

Tables are written and read up to the first failure. When that is a failed call of a codec, the
caller sees the codec's own error, put under the name of the kind unless it is one that is passed
on. When it is not, no name is put around the error: a message refuses what has no room by the bare
length, and an entry that cannot be read is refused as it is without codecs.

A failed call is described by the way to it: what was written or read before it, and the state of
the message in which the codec was called.
-/
namespace TrafficControl

variable {P : Type}

namespace Error

/-- The error under these names of kinds, the outermost first. -/
def under (kinds : List String) (e : Error) : Error := kinds.foldr .codec e

theorem code_under (kinds : List String) (e : Error) : (e.under kinds).code = e.code := by
  induction kinds with
  | nil => rfl
  | cons kind kinds ih => exact ih

end Error

namespace Build

variable {x : Build Unit} {t : UInt16} {nest : Builder.Nest} {b b' b₁ : Builder} {e : Error}

theorem exists_tooLarge_of_startNest (h : startNest t b = .error e b') :
    ∃ n m, m < n ∧ e = .tooLarge n m := by
  rcases startNest_cases t b with ⟨_, hres⟩ | ⟨n, m, hn, hres⟩
  · cases hres.symm.trans h
  · cases hres.symm.trans h
    exact ⟨n, m, hn, rfl⟩

theorem exists_tooLarge_of_endNest (h : endNest nest b = .error e b') :
    ∃ n m, m < n ∧ e = .tooLarge n m := by
  rcases endNest_cases nest b with hres | ⟨n, m, hn, hres⟩
  · cases hres.symm.trans h
  · cases hres.symm.trans h
    exact ⟨n, m, hn, rfl⟩

theorem nested_of_error (hs : startNest t b = .ok nest b₁) (hx : x b₁ = .error e b') :
    nested t x b = .error e b' :=
  bind_eq_error_iff.mpr (.inr ⟨nest, b₁, hs, bind_eq_error_iff.mpr (.inl hx)⟩)

/-- A nest stops in its contents, or because of a length. -/
theorem nested_eq_error_cases (h : nested t x b = .error e b') :
    (∃ n m, m < n ∧ e = .tooLarge n m) ∨
      ∃ nest b₁, startNest t b = .ok nest b₁ ∧ x b₁ = .error e b' := by
  rcases bind_eq_error_iff.mp h with hs | ⟨nest, b₁, hs, h⟩
  · exact .inl (exists_tooLarge_of_startNest hs)
  · rcases bind_eq_error_iff.mp h with hx | ⟨_, b₂, -, hend⟩
    · exact .inr ⟨nest, b₁, hs, hx⟩
    · exact .inl (exists_tooLarge_of_endNest hend)

end Build

namespace ActionTable

variable {r : Registry P} {type : UInt16} {c : Chain P} {b b' : Builder} {kind : String}
  {e : Error}

/-- Writes the entry of an action at its place. -/
def writePlaced (r : Registry P) (x : Nat × Shared P) : Build Unit :=
  Build.nested (.ofNat x.1) (writeEntry r x.2.action)

theorem write_eq_nested (type : UInt16) (c : Chain P) (r : Registry P) :
    write type c r = Build.nested type (c.ordered.forM (writePlaced r)) := rfl

/-- What is done to the message right before a codec writes in this style. -/
def beginOptions : FillStyle → Build Unit
  | .nested => discard (Build.startNest optionsType)
  | .raw => pure ()

/-- What is done to the message until the codec of the action at this place is called, when the
actions before it are these. -/
def beforeCall (r : Registry P) (type : UInt16) (before : List (Nat × Shared P)) (place : Nat)
    (kind : String) (style : FillStyle) : Build Unit := do
  let _ ← Build.startNest type
  before.forM (writePlaced r)
  let _ ← Build.startNest (.ofNat place)
  Build.attrText kindType kind
  beginOptions style

/-- While the chain is written, the codec of the kind of an action is called and fails by this
error. -/
inductive FillFails (r : Registry P) (type : UInt16) (c : Chain P) (b : Builder) :
    String → Error → Builder → Prop
  | intro {before after : List (Nat × Shared P)} {place : Nat} {a : Shared P} {kind : String}
      {codec : Codec P} {style : FillStyle} {b₁ b' : Builder} {e : Error}
      (hc : c.ordered = before ++ (place, a) :: after) (hk : a.action.kind = some kind)
      (hr : r.get? kind = some codec) (hs : codec.style = some style)
      (hreach : beforeCall r type before place kind style b = .ok () b₁)
      (hfail : codec.fill a.action b₁ = .error e b') : FillFails r type c b kind e b'

section Options

variable {a : Action P} {codec : Codec P} {style : FillStyle} {b₁ : Builder}

theorem writeOptions_of_error (hw : writer? r a = some (kind, codec, style))
    (hbegin : beginOptions style b = .ok () b₁) (hfail : codec.fill a b₁ = .error e b') :
    writeOptions r a b = .error (e.inCodec kind) b' := by
  have hcall : (codec.fill a).adaptExcept (Error.inCodec kind) b₁ = .error (e.inCodec kind) b' :=
    Build.adaptExcept_eq_error_iff.mpr ⟨e, hfail, rfl⟩
  cases style with
  | nested =>
      obtain ⟨nest, b₂, hstart, hb⟩ := Build.bind_eq_ok_iff.mp hbegin
      cases hb
      simp only [writeOptions, hw]
      exact Build.nested_of_error hstart hcall
  | raw =>
      cases hbegin
      simp only [writeOptions, hw]
      exact hcall

/-- The options of an action with a codec stop in the codec, or because of a length. -/
theorem writeOptions_eq_error_cases (hw : writer? r a = some (kind, codec, style))
    (h : writeOptions r a b = .error e b') :
    (∃ n m, m < n ∧ e = .tooLarge n m) ∨
      ∃ b₁ err, beginOptions style b = .ok () b₁ ∧ codec.fill a b₁ = .error err b' ∧
        e = err.inCodec kind := by
  cases style with
  | nested =>
      simp only [writeOptions, hw] at h
      rcases Build.nested_eq_error_cases h with hl | ⟨nest, b₁, hstart, hcall⟩
      · exact .inl hl
      · obtain ⟨err, hfail, he⟩ := Build.adaptExcept_eq_error_iff.mp hcall
        exact .inr ⟨b₁, err, Build.bind_eq_ok_iff.mpr ⟨nest, b₁, hstart, rfl⟩, hfail, he⟩
  | raw =>
      simp only [writeOptions, hw] at h
      obtain ⟨err, hfail, he⟩ := Build.adaptExcept_eq_error_iff.mp h
      exact .inr ⟨b, err, rfl, hfail, he⟩

end Options

theorem write_of_fillFails (h : FillFails r type c b kind e b') :
    write type c r b = .error (e.inCodec kind) b' := by
  obtain ⟨hc, hk, hr, hs, hreach, hfail⟩ := h
  obtain ⟨nest, b₁, htable, hreach⟩ := Build.bind_eq_ok_iff.mp hreach
  obtain ⟨_, b₂, hbefore, hreach⟩ := Build.bind_eq_ok_iff.mp hreach
  obtain ⟨nest', b₃, hentry, hreach⟩ := Build.bind_eq_ok_iff.mp hreach
  obtain ⟨_, b₄, hkind, hbegin⟩ := Build.bind_eq_ok_iff.mp hreach
  have hoptions := writeOptions_of_error (writer?_eq_some_iff.mpr ⟨hk, hr, hs⟩) hbegin hfail
  rw [write_eq_nested]
  refine Build.nested_of_error htable ?_
  rw [Build.forM_eq_error_iff]
  refine ⟨_, _, _, b₂, hc, hbefore, Build.nested_of_error hentry ?_⟩
  rw [writeEntry, hk]
  exact Build.bind_eq_error_iff.mpr (.inr ⟨(), b₄, hkind, hoptions⟩)

theorem write_eq_error_cases (h : write type c r b = .error e b') :
    (∃ kind err, FillFails r type c b kind err b' ∧ e = err.inCodec kind) ∨
      ∃ n m, m < n ∧ e = .tooLarge n m := by
  rw [write_eq_nested] at h
  rcases Build.nested_eq_error_cases h with hl | ⟨nest, b₁, htable, h⟩
  · exact .inr hl
  obtain ⟨before, ⟨place, a⟩, after, b₂, hc, hbefore, h⟩ := Build.forM_eq_error_iff.mp h
  rcases Build.nested_eq_error_cases h with hl | ⟨nest', b₃, hentry, h⟩
  · exact .inr hl
  rcases Build.bind_eq_error_iff.mp h with hkind | ⟨_, b₄, hkind, hoptions⟩
  · have hsettled : Build.Settled (a.action.kind.forM (Build.attrText kindType)) :=
      .option fun _ _ => .attr ..
    exact .inr (hsettled.exists_tooLarge hkind)
  cases hw : writer? r a.action with
  | none =>
      rw [writeOptions_of_writer?_eq_none hw] at hoptions
      exact .inr ((settled_writeRaw _).exists_tooLarge hoptions)
  | some w =>
      obtain ⟨kind, codec, style⟩ := w
      rcases writeOptions_eq_error_cases hw hoptions with hl | ⟨b₅, err, hbegin, hfail, he⟩
      · exact .inr hl
      · obtain ⟨hk, hr, hs⟩ := writer?_eq_some_iff.mp hw
        rw [hk] at hkind
        have hreach : beforeCall r type before place kind style b = .ok () b₅ :=
          Build.bind_eq_ok_iff.mpr ⟨nest, b₁, htable, Build.bind_eq_ok_iff.mpr
            ⟨(), b₂, hbefore, Build.bind_eq_ok_iff.mpr
              ⟨nest', b₃, hentry, Build.bind_eq_ok_iff.mpr ⟨(), b₄, hkind, hbegin⟩⟩⟩⟩
        exact .inl ⟨kind, err, .intro hc hk hr hs hreach hfail, he⟩

/-- While the table is read, the codec of the kind of an entry is called and fails by this error. -/
inductive ParseFails (r : Registry P) (d : Octets) : String → Error → Prop
  | intro {before after : List (Nat × Octets)} {place : Nat} {entry : Octets}
      {as : List (Action P)} {a : Action P} {kind : String} {codec : Codec P} {e : Error}
      (hd : occurring d = before ++ (place, entry) :: after)
      (hbefore : (before.map (·.2)).mapM (readEntry r) = .ok as)
      (hentry : readEntry .empty entry = .ok a) (hk : a.kind = some kind)
      (hr : r.get? kind = some codec) (hfail : codec.parse a.options = .error e) :
      ParseFails r d kind e

section Read

variable {first : Nat} {d : Octets}

theorem read_of_parseFails (h : ParseFails r d kind e) :
    read r first d = .error (e.inCodec kind) := by
  obtain ⟨hd, hbefore, hentry, hk, hr, hfail⟩ := h
  rw [read_eq_error_iff, hd, List.map_append, List.map_cons, mapM_eq_error_iff]
  refine ⟨_, _, _, rfl, ⟨_, hbefore⟩, ?_⟩
  rw [readEntry_eq, hentry]
  exact decode_eq_error_iff.mpr ⟨_, _, _, hk, hr, hfail, rfl⟩

/-- A table that cannot be read fails in a codec, or as it does without codecs. -/
theorem read_eq_error_cases (h : read r first d = .error e) :
    (∃ kind err, ParseFails r d kind err ∧ e = err.inCodec kind) ∨
      read (P := P) .empty first d = .error e := by
  obtain ⟨_, _, _, hmap, ⟨as, hbefore⟩, hx⟩ := mapM_eq_error_iff.mp (read_eq_error_iff.mp h)
  obtain ⟨before, rest, hd, rfl, hrest⟩ := List.map_eq_append_iff.mp hmap
  obtain ⟨⟨place, entry⟩, after, rfl, rfl, rfl⟩ := List.map_eq_cons_iff.mp hrest
  rw [readEntry_eq] at hx
  cases hentry : readEntry (P := P) .empty entry with
  | error err =>
      rw [hentry] at hx
      cases hx
      exact .inr (read_eq_error_iff.mpr (mapM_eq_error_iff.mpr
        ⟨_, _, _, hmap, exists_mapM_readEntry_empty hbefore, hentry⟩))
  | ok a =>
      rw [hentry] at hx
      obtain ⟨kind, codec, err, hk, hr, hfail, he⟩ := decode_eq_error_iff.mp hx
      exact .inl ⟨kind, err, .intro hd hbefore hentry hk hr hfail, he⟩

end Read

/-- Errors of codecs keep their number. When a codec fails while a chain is written or a table is
read, the caller gets the codec's error, under the name of the kind unless it is one that is passed
on, and every other failure is as it is without codecs: a length that is refused, or an entry that
cannot be read. No name changes the number of an error, however many there are around it. -/
theorem codec_errors_keep_code (r : Registry P) :
    (∀ (type : UInt16) (c : Chain P) (b b' : Builder) (kind : String) (e : Error),
      FillFails r type c b kind e b' → write type c r b = .error (e.inCodec kind) b') ∧
    (∀ (type : UInt16) (c : Chain P) (b b' : Builder) (e : Error), write type c r b = .error e b' →
      (∃ kind err, FillFails r type c b kind err b' ∧ e = err.inCodec kind) ∨
        ∃ n m, m < n ∧ e = .tooLarge n m) ∧
    (∀ (first : Nat) (d : Octets) (kind : String) (e : Error),
      ParseFails r d kind e → read r first d = .error (e.inCodec kind)) ∧
    (∀ (first : Nat) (d : Octets) (e : Error), read r first d = .error e →
      (∃ kind err, ParseFails r d kind err ∧ e = err.inCodec kind) ∨
        read (P := P) .empty first d = .error e) ∧
    (∀ (kind : String) (e : Error), (e.IsPassed → e.inCodec kind = e) ∧
      (¬ e.IsPassed → e.inCodec kind = .codec kind e) ∧ (e.inCodec kind).code = e.code) ∧
    ∀ (kinds : List String) (e : Error), (e.under kinds).code = e.code ∧
      ∀ kind text, ((Error.foreignCodec kind text).under kinds).code = -Errno.invalid := by
  refine ⟨fun _ _ _ _ _ _ => write_of_fillFails, fun _ _ _ _ _ => write_eq_error_cases,
    fun _ _ _ _ => read_of_parseFails, fun _ _ _ => read_eq_error_cases, fun kind e => ?_,
    fun kinds e => ⟨e.code_under kinds, fun kind text => ?_⟩⟩
  · exact ⟨e.inCodec_of_isPassed kind, e.inCodec_of_not_isPassed kind, e.code_inCodec kind⟩
  · exact Error.code_under kinds _

/-- A registry with a codec that refuses whatever it is given. -/
def refusing (name : String) (style : FillStyle) (e : Error) : Registry P where
  codecs := [{
    name
    style := some style
    fill := fun _ => throw e
    parse? := some fun _ => .error e }]
  nodup := List.nodup_cons.mpr ⟨List.not_mem_nil, List.nodup_nil⟩

/-- The codec is called for the second action, and for the second entry. -/
theorem codec_errors_keep_code_refusing :
    let outer : Registry Builtin := refusing "police" .nested .notFound
    let deep : Error := .codec "gact" (.codec "mirred" (.kernel 5 "gone"))
    let inner : Registry Builtin := refusing "police" .raw deep
    let c : Chain Builtin := ⟨[⟨0, { kind := some "gact" }⟩, ⟨1, { kind := some "police" }⟩],
      by decide, by decide⟩
    (∃ b, FillFails outer 1 c (.new 0 0) "police" .notFound b ∧
      write 1 c outer (.new 0 0) = .error (.codec "police" .notFound) b ∧
      ∃ kind err, FillFails outer 1 c (.new 0 0) kind err b ∧
        Error.codec "police" .notFound = err.inCodec kind) ∧
    ParseFails inner tidyTable "police" deep ∧ read inner 0 tidyTable = .error deep ∧
    ((∃ kind err, ParseFails inner tidyTable kind err ∧ deep = err.inCodec kind) ∨
      read (P := Builtin) .empty 0 tidyTable = .error deep) ∧
    deep.IsPassed ∧ ¬ Error.notFound.IsPassed ∧ deep.code = -5 := by
  intro outer deep inner c
  obtain ⟨hfill, hwrite, -, -, hnames, -⟩ := codec_errors_keep_code outer
  obtain ⟨-, -, hparse, hread, hkept, hunder⟩ := codec_errors_keep_code inner
  have hmessage : (pure c >>= fun c => Build.message
      (beforeCall outer 1 (c.ordered.take 1) 2 "police" .nested) (.new 0 0)).map
      (·.payload.length) = .ok 40 := by decide +kernel
  obtain ⟨_, b, hc, hreach, -⟩ := Build.exists_of_message_eq_ok hmessage
  cases hc
  have hfails : FillFails outer 1 c (.new 0 0) "police" .notFound b :=
    .intro rfl rfl rfl rfl hreach rfl
  have hd : occurring tidyTable = [(3, Attr.written 1 (Attr.ofText "gact"))] ++
      (32, Attr.written 1 (Attr.ofText "police")) :: [] := by decide +kernel
  have hbefore : [Attr.written 1 (Attr.ofText "gact")].mapM (readEntry inner) =
      .ok [{ kind := some "gact" }] := by decide +kernel
  have hentry : readEntry (P := Builtin) .empty (Attr.written 1 (Attr.ofText "police")) =
      .ok { kind := some "police" } := by decide +kernel
  have hcall : ParseFails inner tidyTable "police" deep := .intro hd hbefore hentry rfl rfl rfl
  have hpassed : deep.IsPassed := trivial
  have hw : write 1 c outer (.new 0 0) = .error (.codec "police" .notFound) b :=
    (hfill _ _ _ _ _ _ hfails).trans (by rw [(hnames "police" _).2.1 id])
  have hr : read inner 0 tidyTable = .error deep :=
    (hparse 0 _ _ _ hcall).trans (by rw [(hkept "police" deep).1 hpassed])
  refine ⟨⟨b, hfails, hw, ?_⟩, hcall, hr, hread _ _ _ hr, hpassed, id,
    (hunder ["gact", "mirred"] (.kernel 5 "gone")).1⟩
  rcases hwrite _ _ _ _ _ hw with h | ⟨_, _, -, h⟩
  · exact h
  · cases h

end ActionTable
end TrafficControl
