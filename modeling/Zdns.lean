import Zdns.Support.GoMap
import Zdns.Support.Names
import Zdns.Dnssec.Records
import Zdns.Dnssec.Env
import Zdns.Dnssec.Validator
import Zdns.Dnssec.DSRecords
import Zdns.Dnssec.KeySet
import Zdns.Dnssec.Signatures
import Zdns.Dnssec.Sections
import Zdns.Dnssec.Report
import Zdns.Dnssec.Questions
import Zdns.Dnssec.RangeOrder
import Zdns.Dnssec.Trust
import Zdns.Lookup.NSLookup
import Zdns.Cli.ParseArgs
