import TextTemplate.Engine.Basic

/-!
Catalogs of the standard libraries. What is proved about templates read with the standard
libraries needs only that the tags are the standard ones; the filters may be any. A catalog
may also know fewer tags than the standard ones, which only makes it refuse more templates.
-/
namespace TextTemplate

namespace Tags

def all : List (String × Tag) := standard.tags ++ loading.tags

/-- The five standard tags are told apart by their names. -/
theorem get?_all_cases {name : String} {tag : Tag} (h : Entries.get? all name = some tag) :
    name = "with" ∧ tag = withTag ∨ name = "if" ∧ tag = ifTag ∨ name = "for" ∧ tag = forTag ∨
      name = "comment" ∧ tag = commentTag ∨ name = "include" ∧ tag = includeTag := by
  simp only [all, standard, loading, List.cons_append, List.nil_append, Entries.get?] at h
  split at h
  · simp_all
  · split at h
    · simp_all
    · split at h
      · simp_all
      · split at h
        · simp_all
        · split at h
          · simp_all
          · simp at h

end Tags

namespace Catalog

def HasStandardTags (catalog : Catalog) : Prop :=
  ∀ name, catalog.tag? name = Entries.get? Tags.all name

def HasOnlyStandardTags (catalog : Catalog) : Prop :=
  ∀ name tag, catalog.tag? name = some tag → Entries.get? Tags.all name = some tag

def HasStandardFilters (catalog : Catalog) : Prop :=
  ∀ name, catalog.filter? name = Entries.get? Filters.standard.filters name

theorem HasStandardTags.only {catalog : Catalog} (h : catalog.HasStandardTags) :
    catalog.HasOnlyStandardTags := by
  intro name tag htag
  rw [← h name, htag]

end Catalog

namespace Engine

/-- The engine with default libraries knows the standard tags and filters. -/
theorem withDefaults_catalog :
    withDefaults.catalog = { tags := Tags.all, filters := Filters.standard.filters } := by
  rfl

theorem withDefaults_hasStandardTags : withDefaults.catalog.HasStandardTags := by
  intro name
  rw [withDefaults_catalog]
  rfl

theorem withDefaults_hasStandardFilters : withDefaults.catalog.HasStandardFilters := by
  intro name
  rw [withDefaults_catalog]
  rfl

end Engine

end TextTemplate
