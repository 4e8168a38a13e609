import VirtualMocap.Proofs.Osc.Layout

/-!
# The catalog

A signature reads back from each of its variants the number of groups it carries
(`Signature.groups?_variant`), and every catalog address leads back to its entry
(`lookup_address`). The arguments of each kind of message are stated once
(`Message.args`), with what they carry (`Message.Carries`).
-/

namespace VirtualMocap

namespace Motion

open Osc

/-! ## Signatures -/

namespace Signature

def variant (sig : Signature) (k : Nat) : List Char :=
  sig.required.toList ++ (sig.optional.take k).flatMap String.toList

theorem takeGroups_variant : ∀ {gs : List String}, (∀ g ∈ gs, g ≠ "") →
    ∀ {k : Nat}, k ≤ gs.length → takeGroups gs ((gs.take k).flatMap String.toList) = (k, [])
  | [], _, k, hk => by
    obtain rfl : k = 0 := by simpa using hk
    rfl
  | g :: gs, hne, 0, _ => by
    have hg : g.toList ≠ [] := by
      simpa [String.toList_eq_nil_iff] using hne g (List.mem_cons_self ..)
    cases hcs : g.toList with
    | nil => exact absurd hcs hg
    | cons c cs => simp [takeGroups, hcs]
  | g :: gs, hne, k + 1, hk => by
    have hrest := takeGroups_variant (fun g' hg' => hne g' (List.mem_cons_of_mem _ hg'))
      (show k ≤ gs.length by simpa using hk)
    simp only [List.take_succ_cons, List.flatMap_cons, takeGroups]
    rw [if_pos (List.isPrefixOf_iff_prefix.2 (List.prefix_append _ _)),
      List.drop_left' (@String.length_toList g), hrest]

/-- A signature reads back the number of groups of each of its variants. -/
theorem groups?_variant (sig : Signature) (hne : ∀ g ∈ sig.optional, g ≠ "") {k : Nat}
    (hk : k ≤ sig.optional.length) : sig.groups? (String.ofList (sig.variant k)) = some k := by
  simp only [groups?, variant, String.toList_ofList]
  rw [if_neg (by simp [List.isPrefixOf_iff_prefix]), List.drop_left' (@String.length_toList _),
    takeGroups_variant hne hk]
  rfl

end Signature

/-! ## Entries -/

namespace Route

/-- Every address of the catalog leads back to its own entry. -/
theorem lookup_address (r : Route) : lookup r.address = some r := by
  cases r with
  | device kind isLocal => cases kind <;> cases isLocal <;> decide +kernel
  | _ => decide +kernel

theorem address_plain (r : Route) : r.address.startsWith "/" = true ∧ Text.Held r.address ∧
    '\x00' ∉ r.address.toList ∧ Text.hasSurrogate r.address = false := by
  cases r with
  | device kind isLocal => cases kind <;> cases isLocal <;> decide +kernel
  | _ => decide +kernel

theorem groups?_variant (r : Route) {k : Nat} (hk : k ≤ r.signature.optional.length) :
    r.signature.groups? (String.ofList (r.signature.variant k)) = some k :=
  r.signature.groups?_variant (by cases r <;> simp [signature]) hk

end Route

/-! ## Codes -/

theorem ModelState.ofCode?_code (x : ModelState) : ofCode? (Int32.ofInt x.code).toInt = some x := by
  cases x <;> decide

theorem CalibrationState.ofCode?_code (x : CalibrationState) :
    ofCode? (Int32.ofInt x.code).toInt = some x := by
  cases x <;> decide

theorem CalibrationMode.ofCode?_code (x : CalibrationMode) :
    ofCode? (Int32.ofInt x.code).toInt = some x := by
  cases x <;> decide

theorem TrackingState.ofCode?_code (x : TrackingState) :
    ofCode? (Int32.ofInt x.code).toInt = some x := by
  cases x <;> decide

theorem InputAction.ofCode?_code (x : InputAction) : ofCode? (Int32.ofInt x.code).toInt = some x := by
  cases x <;> decide

theorem flag_ne_zero (b : Bool) : ((if b then 1 else 0 : Int32).toInt != 0) = b := by
  cases b <;> decide

/-! ## What a message carries -/

def Message.route : Message → Route
  | .rootTransform .. => .root
  | .boneTransform .. => .bone
  | .deviceTransform kind _ _ _ isLocal => .device kind isLocal
  | .blendShape .. => .blend
  | .applyBlendShapes => .apply
  | .state .. => .state
  | .time .. => .time
  | .cameraTransform .. => .camera
  | .controllerInput .. => .controller
  | .keyInput .. => .key
  | .midiNote .. => .midiNote
  | .midiControlValue .. => .midiValue
  | .midiControlButton .. => .midiButton
  | .directionalLight .. => .light
  | .receiveEnable .. => .receive
  | .sendPeriod .. => .period
  | .calibrationReady => .calibrationReady
  | .calibrationExec .. => .calibrationExec
  | .configRequest .. => .config
  | .loadedModel .. => .model

def Message.groups : Message → Nat
  | .rootTransform _ _ (some _) => 1
  | .state _ (some ⟨_, _, none⟩) => 1
  | .state _ (some ⟨_, _, some _⟩) => 2
  | .receiveEnable _ _ (some _) => 1
  | .loadedModel _ _ (some _) => 1
  | _ => 0

def Message.texts : Message → List String
  | .boneTransform bone .. => [bone]
  | .deviceTransform _ joint .. => [joint]
  | .blendShape key _ => [key]
  | .cameraTransform name .. => [name]
  | .controllerInput _ name .. => [name]
  | .keyInput _ name _ => [name]
  | .directionalLight name .. => [name]
  | .receiveEnable _ _ address => address.toList
  | .configRequest path => [path]
  | .loadedModel path title hash => [path, title] ++ hash.toList
  | _ => []

/-- A message as its class makes it: each number a single as rounding gives it, its
NaNs quiet, and each text held. -/
def Message.Valid (m : Message) : Prop := (∀ x ∈ m.numbers, x.quiet = x) ∧ ∀ s ∈ m.texts, Text.Held s

instance Message.decidableValid : DecidablePred Message.Valid := fun m =>
  inferInstanceAs (Decidable ((∀ x ∈ m.numbers, x.quiet = x) ∧ ∀ s ∈ m.texts, Text.Held s))

def Message.PlainTexts (m : Message) : Prop := ∀ s ∈ m.texts, '\x00' ∉ s.toList

instance Message.decidablePlainTexts : DecidablePred Message.PlainTexts := fun m =>
  inferInstanceAs (Decidable (∀ s ∈ m.texts, '\x00' ∉ s.toList))

/-- No text of the message holds an unpaired surrogate, which UTF-8 cannot write. -/
def Message.Utf8Texts (m : Message) : Prop := ∀ s ∈ m.texts, Text.hasSurrogate s = false

instance Message.decidableUtf8Texts : DecidablePred Message.Utf8Texts := fun m =>
  inferInstanceAs (Decidable (∀ s ∈ m.texts, Text.hasSurrogate s = false))

/-- The datagram of the message fits the 32-bit size word of a bundle element. -/
def Message.Fits (m : Message) : Prop :=
  match m.toOsc with
  | .ok p => p.size < twoPow 32
  | .error _ => True

instance Message.decidableFits : DecidablePred Message.Fits := fun m =>
  match h : m.toOsc with
  | .ok p => decidable_of_iff (p.size < twoPow 32) (by simp [Message.Fits, h])
  | .error _ => isTrue (by simp [Message.Fits, h])

/-- An argument of the message's OSC form: one of its texts or the root's name, one of
its numbers, or an integer (a code, a flag or a field). -/
def Message.Carries (m : Message) : Arg → Prop
  | .str s => s ∈ m.texts ∨ s = "root"
  | .float x => x ∈ m.numbers
  | .int _ => True
  | _ => False

/-! ## The arguments of a message

`Message.toOscParts` checks each text as it writes it; `Message.args` is the same list
with the checks left out. What one kind's arguments are is stated once, in the lemmas
below; everything else holds for all kinds alike. -/

/-- The arguments of a message in signature order, its texts unchecked. -/
def Message.args : Message → List Arg
  | .rootTransform p r so =>
    .str "root" :: (floats (p.toList ++ r.toList) ++
      (match so with | some (s, o) => floats (s.toList ++ o.toList) | none => []))
  | .boneTransform b p r => .str b :: floats (p.toList ++ r.toList)
  | .deviceTransform _ j p r _ => .str j :: floats (p.toList ++ r.toList)
  | .blendShape k v => [.str k, .float v]
  | .applyBlendShapes => []
  | .state m c =>
    code m.code :: (match c with
      | some c => [code c.state.code, code c.mode.code] ++ (c.tracking.map fun t => code t.code).toList
      | none => [])
  | .time s => [.float s]
  | .cameraTransform n p r f => .str n :: floats (p.toList ++ r.toList ++ [f])
  | .controllerInput a n l t x ax => [code a.code, .str n, flag l, flag t, flag x] ++ floats ax.toList
  | .keyInput a n k => [code a.code, .str n, .int k]
  | .midiNote a c n v => [flag a, .int c, .int n, .float v]
  | .midiControlValue k v => [.int k, .float v]
  | .midiControlButton k a => [.int k, flag a]
  | .directionalLight n p r c => .str n :: floats (p.toList ++ r.toList ++ c.toList)
  | .receiveEnable e p a => [flag e, .int p] ++ (a.map .str).toList
  | .sendPeriod s r b bs c d => [s, r, b, bs, c, d].map .int
  | .calibrationReady => []
  | .calibrationExec m => [code m.code]
  | .configRequest p => [.str p]
  | .loadedModel p t h => [.str p, .str t] ++ (h.map .str).toList

def checkedArg : Arg → Except ArgError Arg
  | .str s => strArg? s
  | a => .ok a

@[simp] theorem checkedArg_str (s : String) : checkedArg (.str s) = strArg? s := rfl

@[simp] theorem checkedArg_int (v : Int32) : checkedArg (.int v) = .ok (.int v) := rfl

@[simp] theorem checkedArg_float (x : Binary32) : checkedArg (.float x) = .ok (.float x) := rfl

@[simp] theorem checkedArg_comp_float : checkedArg ∘ Arg.float = Except.ok ∘ Arg.float := rfl

section Args

variable (m : Message)

theorem Message.toOscParts_eq : m.toOscParts = (m.route.address, m.args.map checkedArg) := by
  rcases m with ⟨_, _, _ | _⟩ | _ | _ | _ | _ | ⟨_, _ | ⟨_, _, _ | _⟩⟩ | _ | _ | _ | _ | _ | _ | _ | _ |
    ⟨_, _, _ | _⟩ | _ | _ | _ | _ | ⟨_, _, _ | _⟩
  all_goals simp [Message.toOscParts, Message.args, Message.route, floats, code, flag, strArg?]

theorem Message.carries_args : ∀ a ∈ m.args, m.Carries a := by
  rcases m with ⟨_, _, _ | _⟩ | _ | _ | _ | _ | ⟨_, _ | ⟨_, _, _ | _⟩⟩ | _ | _ | _ | _ | _ | _ | _ | _ |
    ⟨_, _, _ | _⟩ | _ | _ | _ | _ | ⟨_, _, _ | _⟩
  all_goals simp [Message.args, Message.Carries, Message.texts, Message.numbers, floats, code, flag,
    Vec3.toList, Quat.toList, Color.toList]

theorem Message.texts_args : ∀ s ∈ m.texts, Arg.str s ∈ m.args := by
  rcases m with ⟨_, _, _ | _⟩ | _ | _ | _ | _ | ⟨_, _ | ⟨_, _, _ | _⟩⟩ | _ | _ | _ | _ | _ | _ | _ | _ |
    ⟨_, _, _ | _⟩ | _ | _ | _ | _ | ⟨_, _, _ | _⟩
  all_goals simp [Message.args, Message.texts]

end Args

theorem mapM_checked : ∀ {args : List Arg}, (∀ s, Arg.str s ∈ args → '\x00' ∉ s.toList) →
    (args.map checkedArg).mapM id = .ok args
  | [], _ => rfl
  | a :: args, h => by
    have hhead : checkedArg a = .ok a := by
      cases a with
      | str s => simpa [strArg?] using h s (List.mem_cons_self ..)
      | _ => rfl
    have hrest := mapM_checked fun s hs => h s (List.mem_cons_of_mem _ hs)
    simp [List.mapM_cons, hhead, hrest]

theorem Message.toOsc_eq_ok {m : Message} (h : ∀ s, Arg.str s ∈ m.args → '\x00' ∉ s.toList) :
    m.toOsc = .ok (.message m.route.address m.args) := by
  simp [Message.toOsc, m.toOscParts_eq, mapM_checked h]

theorem Message.plain_args {m : Message} (h : m.PlainTexts) :
    ∀ s, Arg.str s ∈ m.args → '\x00' ∉ s.toList := by
  intro s hs
  rcases m.carries_args _ hs with hs | rfl
  · exact h s hs
  · decide

end Motion

end VirtualMocap
