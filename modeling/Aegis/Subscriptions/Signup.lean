import Aegis.Subscriptions.Tenants

/-!
# Demo signup for an account that exists

`demo_signup` checks no key and takes the account id from its caller.  For an account
that has a row already it overwrites the row, issues a key that opens the account and
answers with the stored portal token, so `SignupHarmless` fails for every such account.
-/

namespace Aegis.Subscriptions

open Aegis.Lib

section Harmless

variable (env : Env) (now : ℤ) (draws : SignupDraws) (body : DemoSignupRequest) (world : World)

end Harmless

section Signup

variable {env : Env} {now : ℤ} {draws : SignupDraws} {body : DemoSignupRequest} {world : World}
  {row : Subscription}

theorem after_demoSignup : ((demoSignup env now draws body).run world).2 =
    ((activateDemo env now draws.toDraws (body.account draws)).run world).2 := by
  rw [demoSignup, Prog.run_bind]
  cases (activateDemo env now draws.toDraws (body.account draws)).run world with
  | mk outcome after => cases outcome <;> rfl

end Signup

end Aegis.Subscriptions
