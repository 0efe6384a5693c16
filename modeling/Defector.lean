import Defector.Go.Strconv
import Defector.Go.Path
import Defector.Go.Url
import Defector.Server.Work
import Defector.Server.Loader
import Defector.Server.Fleet
import Defector.Server.Delivery
import Defector.Server.OutputPath
import Defector.Server.Retry
import Defector.Server.FileNames
import Defector.Dns.Extract
import Defector.Dns.Read
import Defector.Dns.Records
import Defector.Dns2site.Training
import Defector.Dns2site.Classify
import Defector.Dns2site.ReadData
import Defector.Dns2site.Evaluate
import Defector.Dnsstats.Report
import Defector.Dnsstats.Unique
import Defector.Dnsstats.Family
import Defector.Dnsstats.Primary
import Defector.Torlogextract.Parse
import Defector.Client.Browse
import Defector.Client.Capture
import Defector.Pipeline.FileNames
