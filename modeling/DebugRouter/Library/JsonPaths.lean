import DebugRouter.Library.JsonRoundTrip

/-!
JSON values that read the same. Writers and readers may order the fields of an object as they like,
so two values are compared by what stands at every path of fields.
-/
namespace DebugRouter.Library.Json

def at? : List String → Json → Option Json
  | [], v => some v
  | key :: path, v => (v.get? key).bind (at? path)

def face : Json → Json
  | arr _ => arr []
  | obj _ => obj []
  | v => v.normalize

def Alike (v w : Json) : Prop := ∀ path, (v.at? path).map face = (w.at? path).map face

variable {v w a : Json} {key : String}

theorem Alike.face_eq (h : v.Alike w) : v.face = w.face := Option.some.inj (h [])

theorem Alike.symm (h : v.Alike w) : w.Alike v := fun p => (h p).symm

theorem Alike.get? (ha : v.Alike w) (hf : v.get? key = some a) :
    ∃ b, w.get? key = some b ∧ a.Alike b := by
  have hh := ha [key]
  simp only [at?, hf, Option.bind_some] at hh
  cases ht : w.get? key with
  | none =>
    rw [ht] at hh
    cases hh
  | some b =>
    refine ⟨b, rfl, ?_⟩
    intro p
    have below := ha (key :: p)
    simp only [at?, hf, ht, Option.bind_some] at below
    exact below

theorem Alike.str {text : String} (h : (Json.str text).Alike w) : w = .str text := by
  have face := h.face_eq
  cases w with
  | str o => exact face.symm
  | num n => cases n <;> cases face
  | null | bool _ | arr _ | obj _ => cases face

theorem Alike.finite {x : Double} (h : (Json.num (.finite x)).Alike w) : w = .num (.finite x) := by
  have face := h.face_eq
  cases w with
  | num n =>
    cases n with
    | finite y => exact face.symm
    | infinite neg => cases face
  | null | bool _ | str _ | arr _ | obj _ => cases face

theorem Alike.ofInt {n : Int} (ha : (Json.ofInt n).Alike w) (hs : n.natAbs ≤ 2 ^ 53) :
    w = Json.ofInt n := by
  unfold Json.ofInt at ha ⊢
  rw [JsNumber.ofInt_small hs] at ha ⊢
  exact ha.finite

theorem at?_normalize (p : List String) (v : Json) : v.normalize.at? p = (v.at? p).map normalize := by
  induction p generalizing v with
  | nil => rfl
  | cons key p ih =>
    simp only [at?, get?_normalize]
    cases v.get? key with
    | none => rfl
    | some inner => exact ih inner

theorem alike_normalize (v : Json) : v.normalize.Alike v := by
  intro p
  rw [at?_normalize, Option.map_map]
  congr 1
  funext u
  cases u with
  | num n => cases n <;> rfl
  | null | bool _ | str _ | arr _ | obj _ => rfl

end DebugRouter.Library.Json
