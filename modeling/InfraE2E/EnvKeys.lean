import InfraE2E.Compose.Setup
import InfraE2E.Kind.Exposed

/-!
# Names of the published variables

Both setups publish their endpoints as environment variables named
`<prefix>_<suffix>`: `ComposeSetup` with the service name as prefix and
`host` or a container port as suffix, `exposePerKindService` with the
sanitized resource name as prefix and `host` or the user's port token as
suffix.  Two such names can only agree when they split at the same last
underscore, so the names are as distinct as their suffixes are free of `_`.

Container ports are printed numerals, so the compose names never collide.
The kind names keep only the sanitized resource name, which merges `/`, `-`
and `_`, and only the remote part of a port token (`buildKindPort`'s input
port): two tokens to one remote port share a variable, and a remote part
`host` names the host variable of its own resource.
-/

namespace InfraE2E

open Text

private theorem underscore_append_inj :
    ∀ {front front' back back' : List Char}, '_' ∉ back → '_' ∉ back' →
      (front ++ '_' :: back = front' ++ '_' :: back' ↔ front = front' ∧ back = back')
  | [], [], _, _, _, _ => by simp
  | [], c :: front', _, _, free, _ => by
      refine iff_of_false (fun same => free ?_) (by simp)
      simp only [List.nil_append, List.cons_append, List.cons.injEq] at same
      simp [same.2]
  | c :: front, [], _, _, _, free' => by
      refine iff_of_false (fun same => free' ?_) (by simp)
      simp only [List.nil_append, List.cons_append, List.cons.injEq] at same
      simp [← same.2]
  | c :: front, c' :: front', _, _, free, free' => by
      simp only [List.cons_append, List.cons.injEq, underscore_append_inj free free', and_assoc]

/-- The names `<prefix>_<suffix>` with an underscore-free suffix agree exactly
when prefix and suffix agree. -/
theorem underscoreJoin_inj {front front' back back' : String} (free : '_' ∉ back.data)
    (free' : '_' ∉ back'.data) :
    front ++ "_" ++ back = front' ++ "_" ++ back' ↔ front = front' ∧ back = back' := by
  simpa [String.ext_iff] using underscore_append_inj free free'

theorem underscore_not_mem_toString (port : Nat) : '_' ∉ (toString port).data :=
  not_mem_toString rfl

theorem underscore_not_mem_host : '_' ∉ "host".data := by decide

theorem compose_hostKey_eq_join (service : String) :
    Compose.hostKey service = service ++ "_" ++ "host" := by
  simp [Compose.hostKey, String.append_assoc]

theorem kind_hostKey_eq_join (resource : String) :
    Kind.hostKey resource = Kind.sanitizeResourceName resource ++ "_" ++ "host" := by
  simp [Kind.hostKey, String.append_assoc]

/-- The compose names are collision-free.  The kind names are determined by
the sanitized resource name and the remote part of the token: for remote parts
without `_`, two port variables agree exactly when both agree, and a port
variable is a host variable exactly when the sanitized names agree and the
remote part is `host`. -/
theorem publishedKeys_collision_free :
    (∀ service service', Compose.hostKey service = Compose.hostKey service' →
      service = service') ∧
    (∀ service service' port port', Compose.portKey service port = Compose.portKey service' port' →
      service = service' ∧ port = port') ∧
    (∀ service service' port, Compose.portKey service port ≠ Compose.hostKey service') ∧
    (∀ resource resource', Kind.hostKey resource = Kind.hostKey resource' ↔
      Kind.sanitizeResourceName resource = Kind.sanitizeResourceName resource') ∧
    (∀ resource resource' token token' localPort localPort' remotePort remotePort' target target'
      pod pod' kp kp', Kind.TokenShape token localPort remotePort →
      Kind.TokenShape token' localPort' remotePort' →
      Kind.buildKindPort token target pod = .ok kp → Kind.buildKindPort token' target' pod' = .ok kp' →
      '_' ∉ remotePort.data → '_' ∉ remotePort'.data →
      (Kind.portKey resource kp.inputPort = Kind.portKey resource' kp'.inputPort ↔
        Kind.sanitizeResourceName resource = Kind.sanitizeResourceName resource' ∧
          remotePort = remotePort')) ∧
    (∀ resource resource' token localPort remotePort target pod kp,
      Kind.TokenShape token localPort remotePort → Kind.buildKindPort token target pod = .ok kp →
      '_' ∉ remotePort.data →
      (Kind.portKey resource kp.inputPort = Kind.hostKey resource' ↔
        Kind.sanitizeResourceName resource = Kind.sanitizeResourceName resource' ∧
          remotePort = "host")) := by
  refine ⟨fun service service' same => ?_, fun service service' port port' same => ?_,
    fun service service' port same => ?_, fun resource resource' => ?_,
    fun resource resource' _ _ _ _ _ _ _ _ _ _ _ _ shape shape' built built' free free' => ?_,
    fun resource resource' _ _ _ _ _ _ shape built free => ?_⟩
  · rw [compose_hostKey_eq_join, compose_hostKey_eq_join] at same
    exact ((underscoreJoin_inj underscore_not_mem_host underscore_not_mem_host).mp same).1
  · have split := (underscoreJoin_inj (underscore_not_mem_toString port)
      (underscore_not_mem_toString port')).mp same
    exact ⟨split.1, toString_injective split.2⟩
  · rw [compose_hostKey_eq_join] at same
    have printed := ((underscoreJoin_inj (underscore_not_mem_toString port)
      underscore_not_mem_host).mp same).2
    exact @not_mem_toString port 'h' rfl (by rw [printed]; decide)
  · rw [kind_hostKey_eq_join, kind_hostKey_eq_join]
    exact (underscoreJoin_inj underscore_not_mem_host underscore_not_mem_host).trans
      (and_iff_left rfl)
  · rw [Kind.buildKindPort_inputPort shape built, Kind.buildKindPort_inputPort shape' built']
    exact underscoreJoin_inj free free'
  · rw [Kind.buildKindPort_inputPort shape built, kind_hostKey_eq_join]
    exact underscoreJoin_inj free underscore_not_mem_host

theorem publishedKeys_collision_free_web :
    Kind.TokenShape "30001:8080" "30001" "8080" ∧ Kind.TokenShape "30002:8080" "30002" "8080" ∧
      Kind.buildKindPort "30001:8080" .other Kind.webPod = .ok ⟨"8080", 8080, "30001:8080"⟩ ∧
      Kind.buildKindPort "30002:8080" .other Kind.webPod = .ok ⟨"8080", 8080, "30002:8080"⟩ ∧
      '_' ∉ "8080".data ∧
      (Kind.portKey "pod/web-0" "8080" = Kind.portKey "pod/web-0" "8080" ↔
        Kind.sanitizeResourceName "pod/web-0" = Kind.sanitizeResourceName "pod/web-0" ∧
          "8080" = "8080") :=
  have shape : Kind.TokenShape "30001:8080" "30001" "8080" := ⟨.inr (by decide), by decide, by decide⟩
  have shape' : Kind.TokenShape "30002:8080" "30002" "8080" := ⟨.inr (by decide), by decide, by decide⟩
  have built : Kind.buildKindPort "30001:8080" .other Kind.webPod = .ok ⟨"8080", 8080, "30001:8080"⟩ :=
    rfl
  have built' : Kind.buildKindPort "30002:8080" .other Kind.webPod =
      .ok ⟨"8080", 8080, "30002:8080"⟩ := rfl
  have free : '_' ∉ "8080".data := by decide
  ⟨shape, shape', built, built', free,
    publishedKeys_collision_free.2.2.2.2.1 "pod/web-0" "pod/web-0" _ _ _ _ _ _ _ _ _ _ _ _ shape
      shape' built built' free free⟩

/-- `pod/web-0` forwarded from local ports 30001 and 30002 to its port 8080. -/
def twiceExposure : Kind.Exposure :=
  ⟨⟨"pod/web-0", "30001:8080,30002:8080"⟩, .ok .other, .ok Kind.webPod, fun _ => 30003,
    fun _ => by norm_num, ""⟩

/-- `service/web`, whose port named `host` targets container port 8080,
forwarded from local port 30002 through that port. -/
def hostNamedExposure : Kind.Exposure :=
  ⟨⟨"service/web", "30002:host"⟩, .ok (.service ⟨"web", false, [⟨"host", 80, .int 8080⟩]⟩),
    .ok Kind.webPod, fun _ => 30003, fun _ => by norm_num, ""⟩

/-- Two resources that differ only in `/` and `-` publish one host variable;
two tokens to one remote port publish one port variable, set first to the one
local port and then to the other; and a Service port named `host` overwrites
the host variable with a port number. -/
theorem kind_keys_collide :
    "pod/web-0" ≠ "pod-web-0" ∧ Kind.hostKey "pod/web-0" = Kind.hostKey "pod-web-0" ∧
      Kind.requestEnv twiceExposure = some [("pod_web_0_host", "localhost"),
        ("pod_web_0_8080", "30001"), ("pod_web_0_8080", "30001"),
        ("pod_web_0_8080", "30002"), ("pod_web_0_8080", "30002")] ∧
      Kind.requestEnv hostNamedExposure =
        some [("service_web_host", "localhost"), ("service_web_host", "30002")] :=
  ⟨by decide, by decide, rfl, rfl⟩

end InfraE2E
