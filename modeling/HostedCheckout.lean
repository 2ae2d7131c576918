import HostedCheckout.Service.Handler
import HostedCheckout.Settings.Load
import HostedCheckout.Proofs.Session.SingleFlight
import HostedCheckout.Proofs.Session.Restraint
import HostedCheckout.Proofs.Session.RoundAlone
import HostedCheckout.Proofs.Gateway.Offsets
import HostedCheckout.Proofs.Intent.Readability
import HostedCheckout.Proofs.Settings.Precedence
import HostedCheckout.Proofs.Merchant.Amounts
import HostedCheckout.Proofs.Merchant.CheckoutLink
import HostedCheckout.Proofs.Merchant.Confinement
import HostedCheckout.Proofs.Merchant.Confirmation
import HostedCheckout.Proofs.Merchant.Course
import HostedCheckout.Proofs.Merchant.Discipline
import HostedCheckout.Proofs.Merchant.Margins
import HostedCheckout.Proofs.Merchant.ProductNames
import HostedCheckout.Proofs.Merchant.Rejection
import HostedCheckout.Proofs.Merchant.Secrecy
import HostedCheckout.Proofs.Service.Blame
import HostedCheckout.Proofs.Intent.Names
import HostedCheckout.Proofs.Merchant.Authentication
import HostedCheckout.Proofs.Merchant.Filing
import HostedCheckout.Proofs.Merchant.Retention
import HostedCheckout.Proofs.Merchant.Envelopes
import HostedCheckout.Proofs.Merchant.Recording
import HostedCheckout.Proofs.Merchant.Shapes
import HostedCheckout.Proofs.Service.Explanations
