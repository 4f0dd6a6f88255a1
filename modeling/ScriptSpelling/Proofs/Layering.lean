import Mathlib.Algebra.BigOperators.Group.List.Basic
import ScriptSpelling.Config.Effective

/-!
# Layers in order

Any number of layers may be put on a configuration, one after the other. Of the settings that
a layer may leave out, each has at the end the value of the last layer that names it (`LastNamed`),
and a list without elements counts as named; exempt words add up (`Config.Layered`).

The layers themselves are a monoid: `a * b` says what `a` says and then `b`, and the unit says
nothing. A run of layers acts on a configuration as its product does (`Config.foldl_merge_eq`), so
neighbours can be put together anywhere in it. The product of two layers is the only layer
that acts as they do, as a layer is known by its effects (`ConfigLayer.eq_of_merge_eq`). The main
statement is `Config.foldl_merge_layered`.
-/

namespace ScriptSpelling

/-! ## The last value that is named -/

section LastNamed

variable {α : Type} {field : ConfigLayer → Option α}

/-- What the layers leave of a setting that held `before`: the value of the last layer that names
the setting, or `before` if none does. -/
inductive LastNamed (field : ConfigLayer → Option α) (before : α) (layers : List ConfigLayer) :
    α → Prop
  | unnamed (h : ∀ layer ∈ layers, field layer = none) : LastNamed field before layers before
  | named {lower upper : List ConfigLayer} {layer : ConfigLayer} {value : α}
      (hlayers : layers = lower ++ layer :: upper) (hvalue : field layer = some value)
      (hupper : ∀ above ∈ upper, field above = none) : LastNamed field before layers value

/-- A setting after the layers, each of which keeps the value unless it names another. -/
def settle (field : ConfigLayer → Option α) (before : α) (layers : List ConfigLayer) : α :=
  layers.foldl (fun value layer => (field layer).getD value) before

theorem settle_cons (before : α) (layer : ConfigLayer) (more : List ConfigLayer) :
    settle field before (layer :: more) = settle field ((field layer).getD before) more := by
  rw [settle, List.foldl_cons, settle]

theorem settle_append (before : α) (lower upper : List ConfigLayer) :
    settle field before (lower ++ upper) = settle field (settle field before lower) upper := by
  rw [settle, List.foldl_append, settle, settle]

theorem settle_of_unnamed {before : α} {layers : List ConfigLayer}
    (h : ∀ layer ∈ layers, field layer = none) : settle field before layers = before := by
  induction layers with
  | nil => rfl
  | cons layer more ih =>
      rw [settle_cons, h layer List.mem_cons_self, Option.getD_none]
      exact ih fun above habove => h above (List.mem_cons_of_mem _ habove)

/-- The first layer only matters for the value with which the others start. -/
theorem LastNamed.cons {before value : α} {layer : ConfigLayer} {more : List ConfigLayer}
    (h : LastNamed field ((field layer).getD before) more value) :
    LastNamed field before (layer :: more) value := by
  rcases h with hunnamed | ⟨rfl, hvalue, hupper⟩
  · cases hfirst : field layer with
    | none => exact .unnamed (List.forall_mem_cons.mpr ⟨hfirst, hunnamed⟩)
    | some value => exact .named (List.nil_append _).symm hfirst hunnamed
  · exact .named (List.cons_append ..).symm hvalue hupper

theorem lastNamed_settle (before : α) (layers : List ConfigLayer) :
    LastNamed field before layers (settle field before layers) := by
  induction layers generalizing before with
  | nil => exact .unnamed fun _ h => absurd h List.not_mem_nil
  | cons layer more ih =>
      rw [settle_cons]
      exact (ih _).cons

theorem LastNamed.eq_settle {before value : α} {layers : List ConfigLayer}
    (h : LastNamed field before layers value) : value = settle field before layers := by
  rcases h with hunnamed | ⟨rfl, hvalue, hupper⟩
  · exact (settle_of_unnamed hunnamed).symm
  · rw [settle_append, settle_cons, hvalue, Option.getD_some, settle_of_unnamed hupper]

end LastNamed

/-! ## The monoid of layers -/

/-- Of two layers, the upper one decides what it names, and the exempt words of both follow one
another. The unit names nothing. -/
instance : Monoid ConfigLayer where
  mul lower upper := {
    categories := upper.categories.or lower.categories
    minLength := upper.minLength.or lower.minLength
    showSuccesses := upper.showSuccesses.or lower.showSuccesses
    skipWords := lower.skipWords ++ upper.skipWords
    color := upper.color.or lower.color
    dictionaries := upper.dictionaries.or lower.dictionaries }
  one := {}
  mul_assoc a b c := (ConfigLayer.mk.injEq ..).mpr
    ⟨Option.or_assoc.symm, Option.or_assoc.symm, Option.or_assoc.symm, List.append_assoc ..,
      Option.or_assoc.symm, Option.or_assoc.symm⟩
  one_mul a := (ConfigLayer.mk.injEq ..).mpr
    ⟨Option.or_none, Option.or_none, Option.or_none, List.nil_append _, Option.or_none,
      Option.or_none⟩
  mul_one a := (ConfigLayer.mk.injEq ..).mpr ⟨rfl, rfl, rfl, List.append_nil _, rfl, rfl⟩

/-- A value that two layers put in place of any other is named by both or by none. -/
theorem eq_of_getD_eq {α : Type} {x y : Option α} {a b : α} (hne : a ≠ b)
    (h : ∀ d, x.getD d = y.getD d) : x = y := by
  rcases x with _ | v <;> rcases y with _ | w
  · rfl
  · exact absurd ((h a).trans (h b).symm) hne
  · exact absurd ((h a).symm.trans (h b)) hne
  · exact congrArg some (h a)

theorem ConfigLayer.eq_of_merge_eq {a b : ConfigLayer}
    (h : ∀ config : Config, config.merge a = config.merge b) : a = b := by
  refine (ConfigLayer.mk.injEq ..).mpr ⟨?_, ?_, ?_, ?_, ?_, ?_⟩
  · have hall (d : List Category) := congrArg Config.categories (h { categories := d })
    exact eq_of_getD_eq (List.cons_ne_nil .string []) hall
  · have hall (d : Nat) := congrArg Config.minLength (h { minLength := d })
    exact eq_of_getD_eq Nat.zero_ne_one hall
  · have hall (d : Bool) := congrArg Config.showSuccesses (h { showSuccesses := d })
    exact eq_of_getD_eq Bool.false_ne_true hall
  · exact congrArg Config.skipWords (h {})
  · have hall (d : Bool) := congrArg Config.color (h { color := d })
    exact eq_of_getD_eq Bool.false_ne_true hall
  · have hall (d : List DictionaryPaths) := congrArg Config.dictionaries (h { dictionaries := d })
    exact eq_of_getD_eq (List.cons_ne_nil ⟨none, ""⟩ []) hall

namespace Config

/-! ## Layers on a configuration -/

theorem merge_empty (config : Config) : config.merge {} = config := by
  simp [merge]

theorem merge_mul (config : Config) (a b : ConfigLayer) :
    config.merge (a * b) = (config.merge a).merge b :=
  (Config.mk.injEq ..).mpr ⟨Option.getD_or, Option.getD_or, Option.getD_or,
    (List.append_assoc ..).symm, Option.getD_or, Option.getD_or⟩

theorem foldl_merge_eq (config : Config) (layers : List ConfigLayer) :
    layers.foldl merge config = config.merge layers.prod := by
  induction layers generalizing config with
  | nil => exact (merge_empty config).symm
  | cons layer more ih => rw [List.foldl_cons, ih, List.prod_cons, merge_mul]

/-- What the layers, one after the other, make of a configuration. -/
structure Layered (config : Config) (layers : List ConfigLayer) (merged : Config) : Prop where
  categories : LastNamed ConfigLayer.categories config.categories layers merged.categories
  minLength : LastNamed ConfigLayer.minLength config.minLength layers merged.minLength
  showSuccesses :
    LastNamed ConfigLayer.showSuccesses config.showSuccesses layers merged.showSuccesses
  color : LastNamed ConfigLayer.color config.color layers merged.color
  dictionaries : LastNamed ConfigLayer.dictionaries config.dictionaries layers merged.dictionaries
  skipWords : merged.skipWords = config.skipWords ++ layers.flatMap ConfigLayer.skipWords

/-- Each setting goes its own way through the layers. -/
theorem foldl_merge_eq_settle (config : Config) (layers : List ConfigLayer) :
    layers.foldl merge config = {
      categories := settle ConfigLayer.categories config.categories layers
      minLength := settle ConfigLayer.minLength config.minLength layers
      showSuccesses := settle ConfigLayer.showSuccesses config.showSuccesses layers
      skipWords := config.skipWords ++ layers.flatMap ConfigLayer.skipWords
      color := settle ConfigLayer.color config.color layers
      dictionaries := settle ConfigLayer.dictionaries config.dictionaries layers } := by
  induction layers generalizing config with
  | nil => exact (congrArg (fun words => { config with skipWords := words })
      (List.append_nil config.skipWords)).symm
  | cons layer more ih =>
      rw [List.foldl_cons, ih, List.flatMap_cons, ← List.append_assoc]
      rfl

theorem eq_foldl_merge_iff {config merged : Config} {layers : List ConfigLayer} :
    merged = layers.foldl merge config ↔ Layered config layers merged := by
  rw [foldl_merge_eq_settle]
  constructor
  · rintro rfl
    exact ⟨lastNamed_settle _ _, lastNamed_settle _ _, lastNamed_settle _ _, lastNamed_settle _ _,
      lastNamed_settle _ _, rfl⟩
  · intro h
    exact (Config.mk.injEq ..).mpr ⟨h.categories.eq_settle, h.minLength.eq_settle,
      h.showSuccesses.eq_settle, h.skipWords, h.color.eq_settle, h.dictionaries.eq_settle⟩

/-- **Layers in order.** After layers that are merged one after the other, each setting has the
value of the last layer that names it, else the old one, and the exempt words of all layers follow
the old ones in order. The layers act as their product, and a layer that says nothing changes
nothing. Two neighbours can be replaced by their product anywhere, and this product is the only
layer that always acts as the two do: it takes each setting from the upper layer if that names it,
else from the lower one, and has the exempt words of both. -/
theorem foldl_merge_layered (config : Config) (layers : List ConfigLayer) :
    (∀ merged, merged = layers.foldl merge config ↔ Layered config layers merged)
      ∧ layers.foldl merge config = config.merge layers.prod
      ∧ config.merge {} = config
      ∧ (∀ lower a b upper, (lower ++ a :: b :: upper).foldl merge config
        = (lower ++ (a * b) :: upper).foldl merge config)
      ∧ ∀ a b layer : ConfigLayer,
        (∀ config : Config, config.merge layer = (config.merge a).merge b) ↔ layer = {
          categories := b.categories.or a.categories
          minLength := b.minLength.or a.minLength
          showSuccesses := b.showSuccesses.or a.showSuccesses
          skipWords := a.skipWords ++ b.skipWords
          color := b.color.or a.color
          dictionaries := b.dictionaries.or a.dictionaries } := by
  refine ⟨fun _ => eq_foldl_merge_iff, foldl_merge_eq config layers, merge_empty config, ?_, ?_⟩
  · intro lower a b upper
    rw [List.foldl_append, List.foldl_append, List.foldl_cons, List.foldl_cons, List.foldl_cons,
      merge_mul]
  · intro a b layer
    constructor
    · intro h
      exact ConfigLayer.eq_of_merge_eq fun config => (h config).trans (merge_mul config a b).symm
    · rintro rfl config
      exact merge_mul config a b

/-- To name no categories is to name them, and an exempt word that is named twice is kept twice. -/
example : [{ categories := some [.comment], minLength := some 4, skipWords := ["acme"] }, {},
      { categories := some [], skipWords := ["acme"] }].foldl merge {}
    = { categories := [], minLength := 4, skipWords := ["acme", "acme"] } := by
  decide

end Config

end ScriptSpelling
