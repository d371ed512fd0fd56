import XsNexus.LinuxNetwork

namespace XsNexus

open ByteCodec FiniteMap HostPrograms HostPrograms.Program

namespace LinuxNetwork

/-- Calls that leave the host as it is. -/
def HostOp.Reads : HostOp → Prop
  | .openDevice _ => False
  | .closeDevice => False
  | .setForwarding _ _ => False
  | .createTable _ => False
  | .deleteTable _ => False
  | .writeManifest _ => False
  | .removeManifest => False
  | _ => True

section Calls

variable (outcome : HostOutcome) (host : LinuxHost)

theorem perform_openDevice (name : String) :
    perform (.openDevice name) outcome host = (.error .network, host) ∨
      host.forwardingOf name = none ∧ host.tun = none ∧ perform (.openDevice name) outcome host =
        (.ok (), { host with tun := some ⟨name, outcome.value, outcome.value⟩ }) := by
  by_cases h : outcome.fails ∨ (host.forwardingOf name).isSome ∨ host.tun.isSome
  · exact .inl (if_pos h)
  · obtain ⟨_, hname, htun⟩ := by simpa only [not_or] using h
    exact .inr ⟨by simpa using hname, by simpa using htun, if_neg h⟩

theorem perform_setForwarding (name : String) (value : UInt8) :
    perform (.setForwarding name value) outcome host = (.error .network, host) ∨
      outcome.fails = false ∧ value ≤ 1 ∧ host.forwardingOf name ≠ none ∧
        perform (.setForwarding name value) outcome host = (.ok (), host.writeForwarding name value) := by
  by_cases h : outcome.fails ∨ value > 1 ∨ host.forwardingOf name = none
  · exact .inl (if_pos h)
  · obtain ⟨hfails, hvalue, hname⟩ := by simpa only [not_or] using h
    exact .inr ⟨by simpa using hfails, UInt8.not_lt.mp hvalue, hname, if_neg h⟩

theorem perform_forwardingValue (name : String) :
    perform (.forwardingValue name) outcome host = (.error .network, host) ∨
      ∃ value, host.forwardingOf name = some value ∧ value ≤ 1 ∧
        perform (.forwardingValue name) outcome host = (.ok value, host) := by
  cases hvalue : host.forwardingOf name with
  | none => exact .inl (by simp [perform, hvalue])
  | some value =>
    by_cases h : outcome.fails ∨ value > 1
    · exact .inl (by simp only [perform, hvalue, if_pos h])
    · have hbound := UInt8.not_lt.mp (not_or.mp h).2
      exact .inr ⟨value, rfl, hbound, by simp only [perform, hvalue, if_neg h]⟩

theorem perform_createTable (name : String) :
    perform (.createTable name) outcome host = (.error .network, host) ∨
      host.tables name = none ∧ perform (.createTable name) outcome host =
        (.ok (), { host with tables := Function.update host.tables name (some .project) }) := by
  by_cases h : outcome.fails ∨ (host.tables name).isSome
  · exact .inl (if_pos h)
  · have hnone := (not_or.mp h).2
    exact .inr ⟨by simpa using hnone, if_neg h⟩

theorem perform_deleteTable (name : String) :
    perform (.deleteTable name) outcome host = (.error .network, host) ∨
      outcome.fails = false ∧ perform (.deleteTable name) outcome host =
        (.ok (), { host with tables := Function.update host.tables name none }) := by
  by_cases h : outcome.fails = true
  · exact .inl (if_pos h)
  · exact .inr ⟨by simpa using h, if_neg h⟩

theorem perform_readManifest :
    perform .readManifest outcome host = (.error .state, host) ∨
      ∃ manifest, host.manifest = some manifest ∧
        perform .readManifest outcome host = (.ok manifest, host) := by
  cases hmanifest : host.manifest with
  | none => exact .inl (by simp [perform, hmanifest])
  | some manifest =>
    by_cases hfails : outcome.fails = true
    · exact .inl (by simp [perform, hmanifest, hfails])
    · exact .inr ⟨manifest, rfl, by simp [perform, hmanifest, hfails]⟩

theorem perform_writeManifest (manifest : NetworkManifest) :
    perform (.writeManifest manifest) outcome host = (.error .state, host) ∨
      perform (.writeManifest manifest) outcome host = (.ok (), { host with manifest := some manifest }) := by
  by_cases h : outcome.fails = true
  · exact .inl (if_pos h)
  · exact .inr (if_neg h)

theorem perform_removeManifest :
    perform .removeManifest outcome host = (.error .network, host) ∨
      outcome.fails = false ∧
        perform .removeManifest outcome host = (.ok (), { host with manifest := none }) := by
  by_cases h : outcome.fails = true
  · exact .inl (if_pos h)
  · exact .inr ⟨by simpa using h, if_neg h⟩

theorem perform_reads {op : HostOp} (hop : op.Reads) : (perform op outcome host).2 = host := by
  cases op with
  | openDevice name => exact hop.elim
  | closeDevice => exact hop.elim
  | setForwarding name value => exact hop.elim
  | createTable name => exact hop.elim
  | deleteTable name => exact hop.elim
  | writeManifest manifest => exact hop.elim
  | removeManifest => exact hop.elim
  | waitForLinkRemoval => rfl
  | deleteRoutes => rfl
  | forwardingPathExists name => rfl
  | manifestExists => rfl
  | forwardingValue name =>
    rcases perform_forwardingValue outcome host name with h | ⟨value, _, _, h⟩
    · rw [h]
    · rw [h]
  | readManifest =>
    rcases perform_readManifest outcome host with h | ⟨manifest, _, h⟩
    · rw [h]
    · rw [h]
  | _ =>
    unfold perform
    simp only [apply_ite Prod.snd, ite_self]

end Calls

section Forwarding

variable (host : LinuxHost) (name : String) (value : UInt8)

@[simp] theorem LinuxHost.writeForwarding_tables :
    (host.writeForwarding name value).tables = host.tables := by
  unfold LinuxHost.writeForwarding
  split
  next => rfl
  next => split <;> rfl

@[simp] theorem LinuxHost.writeForwarding_manifest :
    (host.writeForwarding name value).manifest = host.manifest := by
  unfold LinuxHost.writeForwarding
  split
  next => rfl
  next => split <;> rfl

end Forwarding

section Programs

variable {α β : Type}

theorem andThen_only {Allowed : HostOp → Prop} {program : HostProgram (Except AgentError α)}
    {next : α → HostProgram (Except AgentError β)} (h : program.Only Allowed)
    (hnext : ∀ result, (next result).Only Allowed) : (andThen program next).Only Allowed := by
  refine h.bind fun answer => ?_
  cases answer with
  | ok result => exact hnext result
  | error error => trivial

theorem andThen_yields {Allowed : HostOp → Prop} {Post : Except AgentError β → Prop}
    {program : HostProgram (Except AgentError α)} {next : α → HostProgram (Except AgentError β)}
    (h : program.Only Allowed) (hnext : ∀ result, (next result).Yields Allowed Post)
    (herror : ∀ error, Post (.error error)) : (andThen program next).Yields Allowed Post := by
  refine h.yields_bind fun answer => ?_
  cases answer with
  | ok result => exact hnext result
  | error error => exact herror error

theorem keeps_andThen {Safe : LinuxHost → Prop} {Post : Except AgentError β → LinuxHost → Prop}
    {program : HostProgram (Except AgentError α)} {next : α → HostProgram (Except AgentError β)}
    {host : LinuxHost}
    (h : program.Keeps perform Safe (fun answer host =>
      match answer with
      | .ok result => (next result).Keeps perform Safe Post host
      | .error error => Post (.error error) host) host) :
    (andThen program next).Keeps perform Safe Post host := by
  refine Keeps.bind (h.mono fun answer host hanswer => ?_)
  cases answer with
  | ok result => exact hanswer
  | error error => exact hanswer

end Programs

end LinuxNetwork

end XsNexus
