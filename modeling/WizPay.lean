import WizPay.Runtime.Fencing
import WizPay.Autonomy.Spending
import WizPay.Autonomy.Overlap
import WizPay.Autonomy.RoundTrip
import WizPay.Services.Reachability
import WizPay.Services.Isolation
import WizPay.Providers.Restart
import WizPay.Providers.Preimages
import WizPay.Runtime.Latest
import WizPay.Providers.Circuit
import WizPay.Runtime.Waiting
import WizPay.Authority.SingleUse
import WizPay.Send.Exact
import WizPay.Payroll.Exposure
import WizPay.Autonomy.Material
import WizPay.Services.StepUp
import WizPay.Autonomy.Scheduler
import WizPay.Services.Payroll
import WizPay.Autonomy.Runtime
