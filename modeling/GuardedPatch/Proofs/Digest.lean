import GuardedPatch.Patch.Document
import GuardedPatch.Proofs.Json.Unambiguous

set_option autoImplicit false

/-! # What a digest identifies

The digest of a document is that of its canonical text. Nothing is lost on the way to that text: each entry is an
object that holds all of it, with null for a type that is not there, which no type is written as; entries and fields
keep their order; and a compact text determines its value. So two documents have the same canonical text only if they
are the same (`canonicalText_identifies`), and the same digest only if they are the same or two different texts with
one SHA-256 digest have been found. -/

namespace GuardedPatch

open Json (Value)

theorem FeatureMode.name_injective : Function.Injective FeatureMode.name := by
  intro a b h
  cases a <;> cases b <;> first | rfl | exact absurd h (by decide)

theorem Json.Value.ofOption_injective : Function.Injective Value.ofOption := by
  intro a b h
  cases a <;> cases b <;> cases h <;> rfl

theorem Json.Value.ofTextMap_injective : Function.Injective Value.ofTextMap := by
  rintro ⟨es, hes⟩ ⟨fs, hfs⟩ h
  have hmember : Function.Injective fun e : String × String => (e.1, Value.str e.2) := by
    rintro ⟨name, value⟩ ⟨name', value'⟩ h
    cases h
    rfl
  obtain rfl : es = fs := hmember.list_map (Value.obj.inj h)
  rfl

theorem ParamChange.toJson_injective : Function.Injective ParamChange.toJson := by
  rintro ⟨key, expected, update⟩ ⟨key', expected', update'⟩ h
  cases h
  rfl

theorem FeatureChange.toJson_injective : Function.Injective FeatureChange.toJson := by
  rintro ⟨id, type?, mode, desired⟩ ⟨id', type?', mode', desired'⟩ h
  simp only [toJson, Value.obj.injEq, List.cons.injEq, Prod.mk.injEq, Value.str.injEq, true_and, and_true] at h
  obtain ⟨rfl, htype, hmode, hdesired⟩ := h
  obtain rfl := Value.ofOption_injective htype
  obtain rfl := FeatureMode.name_injective hmode
  obtain rfl := Value.ofTextMap_injective hdesired
  rfl

/-- **A document is written as an object from which it can be told.** -/
theorem Document.toJson_injective : Function.Injective Document.toJson := by
  rintro ⟨project, params, features⟩ ⟨project', params', features'⟩ h
  simp only [toJson, Value.obj.injEq, List.cons.injEq, Prod.mk.injEq, Value.str.injEq, Value.arr.injEq, true_and,
    and_true] at h
  obtain ⟨rfl, hparams, hfeatures⟩ := h
  obtain rfl := ParamChange.toJson_injective.list_map hparams
  obtain rfl := FeatureChange.toJson_injective.list_map hfeatures
  rfl

/-- **The canonical text of a document identifies it.** Two documents are written alike exactly if they are the same,
    whatever is in their strings. So they share a digest exactly if they have the same project, the same parameter
    changes and the same feature changes, in the same order and with the same fields, or else their texts differ in
    their bytes and have one SHA-256 digest all the same. -/
theorem canonicalText_identifies (d₁ d₂ : Document) :
    (d₁.canonicalText = d₂.canonicalText ↔ d₁ = d₂)
      ∧ (d₁.digest = d₂.digest ↔
        (d₁.project = d₂.project ∧ d₁.params = d₂.params ∧ d₁.features = d₂.features)
          ∨ (d₁.canonicalText.toUTF8 ≠ d₂.canonicalText.toUTF8
            ∧ Hash.sha256 d₁.canonicalText = Hash.sha256 d₂.canonicalText)) := by
  have htext : d₁.canonicalText = d₂.canonicalText ↔ d₁ = d₂ :=
    ⟨fun h => Document.toJson_injective (Value.compact_injective h), fun h => h ▸ rfl⟩
  have hbytes : d₁.canonicalText.toUTF8 = d₂.canonicalText.toUTF8 ↔ d₁ = d₂ := String.toByteArray_inj.trans htext
  have hparts : d₁ = d₂ ↔ d₁.project = d₂.project ∧ d₁.params = d₂.params ∧ d₁.features = d₂.features := by
    obtain ⟨project, params, features⟩ := d₁
    rw [Document.mk.injEq]
  refine ⟨htext, ?_⟩
  rw [← hparts, ne_eq, hbytes]
  constructor
  · intro h
    by_cases hsame : d₁ = d₂
    · exact .inl hsame
    · exact .inr ⟨hsame, h⟩
  · rintro (rfl | ⟨-, h⟩)
    · rfl
    · exact h

end GuardedPatch
