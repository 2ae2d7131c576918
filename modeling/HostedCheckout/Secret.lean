/-!
# Secrets

A secret is a text that only its owner may see.  Whatever is printed about it
is the mask, which is the same for all secrets; the value itself is handed out
by `expose` alone, for the places that put it on the wire.
-/

namespace HostedCheckout

/-- A text that is never printed. -/
structure Secret where
  value : String
  deriving DecidableEq

namespace Secret

/-- What is printed in place of a secret. -/
def mask : String := "********"

/-- The value, for the wire. -/
def expose (secret : Secret) : String := secret.value

/-- The printed form. -/
def shown (_ : Secret) : String := mask

/-- The last four characters of a longer secret, to tell credentials apart. -/
def hint (secret : Secret) : String :=
  let characters := secret.value.toList
  if characters.length ≤ 4 then mask
  else "..." ++ String.ofList (characters.drop (characters.length - 4))

/-- All secrets print alike. -/
@[simp]
theorem shown_eq (secret : Secret) : secret.shown = mask :=
  rfl

end Secret

end HostedCheckout
