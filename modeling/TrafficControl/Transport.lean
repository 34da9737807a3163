import TrafficControl.Builder

/-!
# Transports

A transport hands messages to the kernel. It numbers them, sends them, and perhaps waits for the
answer; its state is its own.
-/
namespace TrafficControl

/-- A way to hand messages to the kernel. -/
structure Transport (σ : Type) where
  /-- Sends a message and waits for the acknowledgement. -/
  sendSync : Builder → EStateM Error σ Unit
  send : Builder → EStateM Error σ Unit

/-- A transport that sends nowhere: it numbers messages from one, keeps their octets in order, and
answers as it is told. -/
def Transport.recorder (answer : Except Error Unit) : Transport (List Octets) :=
  let record (b : Builder) : EStateM Error (List Octets) Unit := do
    let kept ← get
    set (kept ++ [(b.setSeq (UInt32.ofNat (kept.length + 1))).finish])
    MonadExcept.ofExcept answer
  ⟨record, record⟩

end TrafficControl
