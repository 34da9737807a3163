import TrafficControl.Config.Gact
import TrafficControl.Config.Mirred
import TrafficControl.Config.Skbedit
import TrafficControl.Config.Vlan

/-!
# The built-in configurations

The payloads of the four kinds that the library knows itself.
-/
namespace TrafficControl

/-- A configuration of one of the built-in kinds. -/
inductive Builtin where
  | gact (c : Gact)
  | mirred (c : Mirred)
  | skbedit (c : Skbedit)
  | vlan (c : Vlan)
deriving DecidableEq, Repr

namespace Builtin

instance : Payload Builtin where
  kind
    | gact _ => Configuration.kind Gact
    | mirred _ => Configuration.kind Mirred
    | skbedit _ => Configuration.kind Skbedit
    | vlan _ => Configuration.kind Vlan
  index
    | gact c => c.index
    | mirred c => c.index
    | skbedit c => c.index
    | vlan c => c.index
  write
    | gact c => c.write
    | mirred c => c.write
    | skbedit c => c.write
    | vlan c => c.write

instance : Holds Builtin Gact where
  payload := gact
  config?
    | gact c => some c
    | _ => none
  config?_eq_some_iff p c := by cases p <;> simp
  kind_payload _ := rfl
  index_payload _ := rfl
  write_payload _ := rfl

instance : Holds Builtin Mirred where
  payload := mirred
  config?
    | mirred c => some c
    | _ => none
  config?_eq_some_iff p c := by cases p <;> simp
  kind_payload _ := rfl
  index_payload _ := rfl
  write_payload _ := rfl

instance : Holds Builtin Skbedit where
  payload := skbedit
  config?
    | skbedit c => some c
    | _ => none
  config?_eq_some_iff p c := by cases p <;> simp
  kind_payload _ := rfl
  index_payload _ := rfl
  write_payload _ := rfl

instance : Holds Builtin Vlan where
  payload := vlan
  config?
    | vlan c => some c
    | _ => none
  config?_eq_some_iff p c := by cases p <;> simp
  kind_payload _ := rfl
  index_payload _ := rfl
  write_payload _ := rfl

end Builtin
end TrafficControl
